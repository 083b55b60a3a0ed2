import Coordination.Proofs.Lock.Accounting
import Coordination.Proofs.Lock.Upgrading

/-!
# What a call leaves behind

A thread that begins an operation while it is idle is idle again at the reply, and its handles are as
before, but for the handle that the operation makes, releases or drops (`Operation.Leaves`). In the
middle of the operation a shared handle may be suspended, and it may have lost its right to an upgrade
afterwards. Neither changes how the handle stands (`Handle.standing`): for an idle thread, a handle that
is not released has its hold, or a child that has it.
-/

namespace Coordination

namespace Handle

/-- A handle but for its right to an upgrade, and for its suspension in favour of a child. -/
def standing : Handle → Handle
  | .shared lock state _ => .shared lock (if state = .released then .released else .active) true
  | .exclusive lock held parent => .exclusive lock held parent

@[simp]
theorem standing_afterUpgrade (handle : Handle) : handle.afterUpgrade.standing = handle.standing := by
  cases handle <;> rfl

@[simp]
theorem standing_afterRelease (handle : Handle) :
    handle.afterRelease.standing = handle.standing.afterRelease := by
  cases handle <;> rfl

@[simp]
theorem afterRelease_afterRelease (handle : Handle) :
    handle.afterRelease.afterRelease = handle.afterRelease := by
  cases handle <;> rfl

@[simp]
theorem parent?_standing (handle : Handle) : handle.standing.parent? = handle.parent? := by
  cases handle <;> rfl

@[simp]
theorem excludesOn_standing (handle : Handle) (lock : LockId) :
    handle.standing.excludesOn lock = handle.excludesOn lock := by
  cases handle <;> rfl

end Handle

namespace Handles

variable {handles before middle after : Handles} {id key : HandleId} {handle : Handle}
  {own : List HandleId}

def standing (handles : Handles) (id : HandleId) : Option Handle :=
  (handles.get? id).map Handle.standing

theorem standing_eq_none_iff : handles.standing id = none ↔ handles.get? id = none :=
  Option.map_eq_none_iff

theorem standing_modify_of_same {change : Handle → Handle}
    (same : ∀ handle, handles.get? id = some handle → (change handle).standing = handle.standing) :
    (handles.modify id change).standing = handles.standing := by
  funext key
  rw [standing, standing, get?_modify]
  split
  · rename_i here
    subst here
    cases found : handles.get? id with
    | none => rfl
    | some handle => exact congrArg some (same handle found)
  · rfl

theorem standing_afterRelease :
    (handles.modify id Handle.afterRelease).standing key
      = if id = key then (handles.standing key).map Handle.afterRelease else handles.standing key := by
  rw [standing, get?_modify]
  split
  · cases found : handles.get? key <;> simp [standing, found]
  · rfl

theorem standing_erase :
    (handles.erase id).standing key = if id = key then none else handles.standing key := by
  rw [standing, get?_erase]
  split <;> rfl

theorem standing_add (absent : handles.get? id = none) :
    (handles.add id handle).standing key
      = if id = key then some handle.standing else handles.standing key := by
  rw [standing, get?_add absent]
  split <;> rfl

/-- The handles of a thread stand as before, except that some may have been released or dropped. -/
def Kept (own : List HandleId) (before after : Handles) : Prop :=
  ∀ id, after.standing id = before.standing id ∨
    id ∈ own ∧
      (after.standing id = none ∨ after.standing id = (before.standing id).map Handle.afterRelease)

namespace Kept

theorem of_standing (same : after.standing = before.standing) : Kept own before after :=
  fun id => Or.inl (congrFun same id)

theorem refl : Kept own before before := of_standing rfl

theorem standing_eq (kept : Kept [] before after) : after.standing = before.standing := by
  funext id
  exact (kept id).resolve_right fun changed => List.not_mem_nil changed.1

theorem trans (first : Kept own before middle) (second : Kept own middle after) :
    Kept own before after := by
  intro id
  rcases second id with same | ⟨mine, gone | released⟩
  · rw [same]
    exact first id
  · exact Or.inr ⟨mine, Or.inl gone⟩
  · refine Or.inr ⟨mine, ?_⟩
    rcases first id with same | ⟨_, gone | also⟩
    · exact Or.inr (released.trans (congrArg _ same))
    · exact Or.inl (released.trans (congrArg _ gone))
    · refine Or.inr (released.trans ?_)
      cases stood : before.standing id <;> simp [also, stood]

theorem mono {more : List HandleId} (kept : Kept own before after)
    (le : ∀ id ∈ own, id ∈ more) : Kept more before after :=
  fun id => (kept id).imp_right fun changed => ⟨le id changed.1, changed.2⟩

/-- A handle that is there was there before, with the same parent. -/
theorem of_get? (kept : Kept own before after) (found : after.get? id = some handle) :
    ∃ old, before.get? id = some old ∧ old.parent? = handle.parent? := by
  have stands : after.standing id = some handle.standing := congrArg _ found
  rcases kept id with same | ⟨_, gone | released⟩
  · rcases Option.map_eq_some_iff.mp (same.symm.trans stands) with ⟨old, oldFound, alike⟩
    exact ⟨old, oldFound, by simpa using congrArg Handle.parent? alike⟩
  · cases gone.symm.trans stands
  · rcases Option.map_eq_some_iff.mp (released.symm.trans stands) with ⟨stood, oldStands, alike⟩
    rcases Option.map_eq_some_iff.mp oldStands with ⟨old, oldFound, rfl⟩
    exact ⟨old, oldFound, by simpa using congrArg Handle.parent? alike⟩

theorem childless (kept : Kept own before after) (childless : before.Childless id) :
    after.Childless id := by
  intro child handle found parent
  rcases kept.of_get? found with ⟨old, oldFound, same⟩
  exact childless child old oldFound (same.trans parent)

theorem released : Kept [id] before (before.modify id Handle.afterRelease) := by
  intro key
  rw [standing_afterRelease]
  by_cases here : id = key
  · exact Or.inr ⟨by simp [here], Or.inr (if_pos here)⟩
  · exact Or.inl (if_neg here)

theorem erased : Kept [id] before (before.erase id) := by
  intro key
  rw [standing_erase]
  by_cases here : id = key
  · exact Or.inr ⟨by simp [here], Or.inl (if_pos here)⟩
  · exact Or.inl (if_neg here)

end Kept

/-- There is one handle more, which is nobody's parent. -/
structure Gains (before : Handles) (id : HandleId) (after : Handles) : Prop where
  absent : before.get? id = none
  others : ∀ key, key ≠ id → after.standing key = before.standing key
  orphan : ∀ handle, after.get? id = some handle → handle.parent? ≠ some id

/-- A number that has just been given is not that of a parent. -/
theorem Gains.childless (gains : Gains before id after) (coherent : before.Coherent none) :
    after.Childless id := by
  intro child handle found parent
  by_cases here : child = id
  · subst here
    exact gains.orphan handle found parent
  · have there : after.standing child = some handle.standing := congrArg _ found
    have stands := (gains.others child here).symm.trans there
    rcases Option.map_eq_some_iff.mp stands with ⟨old, oldFound, alike⟩
    have same : old.parent? = some id := by
      rw [← parent, ← Handle.parent?_standing handle, ← alike, Handle.parent?_standing]
    cases old with
    | shared place state upgraded => cases same
    | exclusive place held parent =>
        cases same
        rcases coherent.parented oldFound with ⟨state, parentFound, _⟩
        cases gains.absent.symm.trans parentFound

end Handles

namespace LockSystem

open Handles (Kept Gains)

/-- What has become of the handles of a thread when an operation has been replied to. -/
def Operation.Leaves (before : Handles) (reply : Reply) (after : Handles) : Operation → Prop
  | .shared _ _ | .exclusive _ _ | .upgrade _ =>
      (∃ id, reply = .handle id ∧ Gains before id after) ∨
        (∀ id, reply ≠ .handle id) ∧ after.standing = before.standing
  | .release id => Kept [id] before after
  | .drop id => Kept [id] before after ∧ (before.Childless id → after.get? id = none)
  | .wait _ _ _ | .signal _ _ => after.standing = before.standing

/-- A request for a new handle, or for the hold that a refused upgrade has given up. -/
def Purpose.takes : Purpose → Bool
  | .acquire | .upgrade _ | .recover _ _ => true
  | .restore _ _ _ | .resume _ => false

/-- Where a thread is in the middle of an operation. -/
def Operation.Amid (before : Handles) (state : Thread) : Operation → Prop
  | .shared _ _ | .exclusive _ _ | .upgrade _ =>
      state.handles.standing = before.standing ∧
        ∃ pursuit, state.activity.Pursues pursuit ∧ pursuit.purpose.takes = true
  | .release id =>
      Kept [id] before state.handles ∧
        ∃ pursuit parent, state.activity.Pursues pursuit ∧ pursuit.purpose = .restore id parent false
  | .drop id =>
      Kept [id] before state.handles ∧
        ∃ pursuit parent, state.activity.Pursues pursuit ∧ pursuit.purpose = .restore id parent true
  | .wait _ _ _ =>
      state.handles.standing = before.standing ∧
        ((∃ place name holds, state.activity = .waiting place name holds) ∨
          ∃ pursuit signalled, state.activity.Pursues pursuit ∧ pursuit.purpose = .resume signalled)
  | .signal _ _ =>
      state.handles.standing = before.standing ∧ ∃ name all, state.activity = .notifying name all

/-- After a step the thread is in the middle of the operation, or it has the reply. -/
def Operation.Continues (operation : Operation) (before : Handles) (thread : ThreadId)
    (stepped : Stepped) : Prop :=
  (stepped.reply = none ∧ operation.Amid before (stepped.state.threads.get thread)) ∨
    ∃ reply, stepped.reply = some reply ∧ stepped.state.activity thread = .idle ∧
      operation.Leaves before reply (stepped.state.handles thread)

section Steps

variable {system : LockSystem} {thread : ThreadId} {now : Instant} {operation : Operation}
  {before : Handles} {log : List Log.Entry}

theorem continues_finish {reply : Reply} (leaves : operation.Leaves before reply (system.handles thread)) :
    operation.Continues before thread (system.finish thread reply log) := by
  refine Or.inr ⟨reply, rfl, activity_finish reply log, ?_⟩
  rw [handles_finish]
  exact leaves

theorem continues_carryOn {activity : Activity}
    (amid : operation.Amid before ⟨system.handles thread, activity⟩) :
    operation.Continues before thread (system.carryOn thread activity log) := by
  refine Or.inl ⟨rfl, ?_⟩
  simpa [carryOn, handles] using amid

/-- What is left of the handles when one of them is given back, and gone if it is dropped. -/
theorem leaves_giving (id : HandleId) (drop : Bool) {after : Handles} (kept : Kept [id] before after) :
    (giving id drop).Leaves before .done (if drop then after.erase id else after) := by
  cases drop with
  | false => exact kept
  | true => exact ⟨kept.trans Kept.erased, fun _ => by simp [Handles.get?_erase]⟩

theorem not_childless_of_borrowed {handles : Handles} {id : HandleId} (keyed : handles.Keyed)
    (borrowed : handles.isBorrowed id = true) : ¬handles.Childless id := by
  intro childless
  cases borrowed.symm.trans (Handles.free_of_childless keyed childless)

/-- A handle that is not there, or that has a child, is left as it is. -/
theorem leaves_of_useless {id : HandleId} {reply : Reply} (other : ∀ key, reply ≠ .handle key)
    (useless : before.Childless id → before.get? id = none) (uses : operation.handle? = some id) :
    operation.Leaves before reply before := by
  cases operation with
  | shared | exclusive | signal => cases uses
  | upgrade => exact Or.inr ⟨other, rfl⟩
  | release => exact Kept.refl
  | wait => rfl
  | drop =>
      cases uses
      exact ⟨Kept.refl, useless⟩

theorem Begins.continues {stepped : Stepped} (begins : Begins system now thread operation stepped)
    (keyed : (system.handles thread).Keyed) :
    operation.Continues (system.handles thread) thread stepped := by
  cases begins with
  | shared | exclusive => exact continues_carryOn ⟨rfl, _, Or.inl rfl, rfl⟩
  | signal name all =>
      apply continues_carryOn
      exact ⟨by simp [handles], name, all, rfl⟩
  | absent uses unknown =>
      exact continues_finish (leaves_of_useless (by simp) (fun _ => unknown) uses)
  | borrowed uses found lent =>
      apply continues_finish
      apply leaves_of_useless (by simp) _ uses
      exact fun childless => absurd childless (not_childless_of_borrowed keyed lent)
  | upgradeExclusive | refuseUpgrade => exact continues_finish (Or.inr ⟨by simp, rfl⟩)
  | overflow asks =>
      rcases asks with rfl | rfl <;> exact continues_finish (Or.inr ⟨by simp, rfl⟩)
  | waitShared | waitReleased | overflowWait | refuseWait => exact continues_finish rfl
  | @upgrade id place found =>
      apply continues_carryOn
      refine ⟨?_, _, Or.inl rfl, rfl⟩
      have suspended : ((system.handles thread).modify id (·.withState .suspended)).standing
          = (system.handles thread).standing := by
        apply Handles.standing_modify_of_same
        intro other otherFound
        cases found.symm.trans otherFound
        rfl
      simpa [handles] using suspended
  | @discard id handle drop =>
      apply continues_finish
      have given := leaves_giving id drop (.refl : Kept [id] (system.handles thread) _)
      cases drop <;> simpa [forget, handles] using given
  | releaseShared drop | releaseExclusive drop =>
      apply continues_finish
      have given (id : HandleId) :=
        leaves_giving id drop (.released : Kept [id] (system.handles thread) _)
      cases drop <;> simpa [forget, handles] using given _
  | @releaseChild id parent place drop =>
      apply continues_carryOn
      cases drop <;> exact ⟨by simpa [handles] using Kept.released, _, parent, Or.inl rfl, rfl⟩
  | @wait id place parent lock holds name =>
      apply continues_carryOn
      exact ⟨by simp [handles], Or.inl ⟨place, name, holds, rfl⟩⟩

end Steps

/-- An operation that makes a handle. -/
def Operation.takes : Operation → Bool
  | .shared _ _ | .exclusive _ _ | .upgrade _ => true
  | .release _ | .drop _ | .wait _ _ _ | .signal _ _ => false

section GoingOn

variable {system : LockSystem} {thread : ThreadId} {now : Instant} {operation : Operation}
  {before after : Handles} {pursuit : Pursuit} {result : Lock × Lock.Outcome}

theorem Operation.leaves_of_gains {id : HandleId} (takes : operation.takes = true)
    (gains : Gains before id after) : operation.Leaves before (.handle id) after := by
  cases operation <;> first | exact Or.inl ⟨id, rfl, gains⟩ | cases takes

theorem Operation.leaves_of_same {reply : Reply} (takes : operation.takes = true)
    (none : ∀ id, reply ≠ .handle id) (same : after.standing = before.standing) :
    operation.Leaves before reply after := by
  cases operation <;> first | exact Or.inr ⟨none, same⟩ | cases takes

theorem Operation.Leaves.of_takes {reply : Reply} (leaves : operation.Leaves before reply after)
    (takes : operation.takes = true) :
    (∃ id, reply = .handle id ∧ Gains before id after) ∨
      (∀ id, reply ≠ .handle id) ∧ after.standing = before.standing := by
  cases operation <;> first | exact leaves | cases takes

theorem Operation.amid_of_pursues {state : Thread} (takes : operation.takes = true)
    (same : state.handles.standing = before.standing) (pursues : state.activity.Pursues pursuit)
    (purpose : pursuit.purpose.takes = true) : operation.Amid before state := by
  cases operation <;> first | exact ⟨same, pursuit, pursues, purpose⟩ | cases takes

/-- A handle that is made is not the parent of anything. -/
theorem gains_add {handles : Handles} {id : HandleId} {handle : Handle}
    (absent : handles.get? id = none) (same : handles.standing = before.standing)
    (orphan : handle.parent? ≠ some id) : Gains before id (handles.add id handle) where
  absent := by
    rw [← Handles.standing_eq_none_iff, ← same, Handles.standing_eq_none_iff]
    exact absent
  others key apart := by
    rw [Handles.standing_add absent, if_neg (Ne.symm apart), same]
  orphan other found := by
    rw [Handles.get?_add absent, if_pos rfl] at found
    cases found
    exact orphan

/-- A request for a handle is settled. -/
theorem continues_of_taking (accounts : system.Accounts) (takes : operation.takes = true)
    (same : (system.handles thread).standing = before.standing)
    (attempt : Attempt system thread pursuit result) (purpose : pursuit.purpose.takes = true) :
    operation.Continues before thread (system.settle thread pursuit now result) := by
  have suits : pursuit.Suits (system.handles thread) := (accounts thread).suits _ attempt.activity
  have fresh : (system.handles thread).get? system.nextHandle = none :=
    (accounts thread).books.numbered _ (Nat.le_refl _)
  rcases result with ⟨lock, outcome⟩
  have granted (log : List Log.Entry) :
      operation.Continues before thread
        ((system.setLock pursuit.lock lock).succeed thread pursuit log) := by
    cases purpose' : pursuit.purpose with
    | acquire =>
        simp only [succeed, purpose']
        apply continues_finish
        refine Operation.leaves_of_gains takes ?_
        have orphan : pursuit.handle.parent? ≠ some system.nextHandle := by
          unfold Pursuit.handle
          split <;> simp [Handle.parent?]
        have gains := gains_add fresh same orphan
        simpa [handles, Pursuit.handle] using gains
    | upgrade parent =>
        simp only [succeed, purpose']
        apply continues_finish
        refine Operation.leaves_of_gains takes ?_
        simp only [Pursuit.Suits, purpose'] at suits
        have apart : parent ≠ system.nextHandle := Handles.ne_of_absent fresh suits.2.2
        have turned : ((system.handles thread).modify parent Handle.afterUpgrade).get? system.nextHandle
            = none := by
          rw [Handles.get?_modify, if_neg apart]
          exact fresh
        have stands : ((system.handles thread).modify parent Handle.afterUpgrade).standing
            = before.standing :=
          (Handles.standing_modify_of_same fun handle _ => handle.standing_afterUpgrade).trans same
        have orphan : (Handle.exclusive pursuit.lock true (some parent)).parent?
            ≠ some system.nextHandle := by
          simpa [Handle.parent?] using apart
        have gains := gains_add turned stands orphan
        simpa [handles] using gains
    | recover parent error =>
        simp only [succeed, purpose']
        apply continues_finish
        refine Operation.leaves_of_same takes (by simp) ?_
        simp only [Pursuit.Suits, purpose'] at suits
        have stands : ((system.handles thread).modify parent (·.withState .active)).standing
            = before.standing := by
          refine (Handles.standing_modify_of_same ?_).trans same
          intro handle found
          cases suits.2.2.symm.trans found
          rfl
        simpa [handles] using stands
    | restore child parent drop | resume signalled => simp [purpose', Purpose.takes] at purpose
  cases outcome with
  | granted | reentered => exact granted _
  | refused error =>
      simp only [settle]
      cases purpose' : pursuit.purpose with
      | upgrade parent =>
          simp only [refuse, purpose']
          apply continues_carryOn
          exact Operation.amid_of_pursues takes (by simpa [handles] using same) (Or.inl rfl) rfl
      | acquire | recover =>
          simp only [refuse, purpose']
          apply continues_finish
          exact Operation.leaves_of_same takes (by simp) (by simpa [handles] using same)
      | restore child parent drop | resume signalled => simp [purpose', Purpose.takes] at purpose
  | parked =>
      apply continues_carryOn
      exact Operation.amid_of_pursues takes (by simpa [handles] using same) (Or.inr rfl) purpose
  | timedOut =>
      apply continues_finish
      exact Operation.leaves_of_same takes (by simp) (by simpa [handles] using same)

/-- The parent of a child that is given back gets its hold back. -/
theorem continues_of_restoring {child parent : HandleId} {drop : Bool} (reachable : system.Reachable)
    (kept : Kept [child] before (system.handles thread))
    (attempt : Attempt system thread pursuit result)
    (purpose : pursuit.purpose = .restore child parent drop) :
    (giving child drop).Continues before thread (system.settle thread pursuit now result) := by
  have suits : pursuit.Suits (system.handles thread) :=
    (accounts_of_reachable reachable thread).suits _ attempt.activity
  simp only [Pursuit.Suits, purpose] at suits
  rcases result with ⟨lock, outcome⟩
  rcases Section.settled_cases reachable attempt suits.2.1 with granted | rfl | ⟨error, refused⟩
  · rw [settle_of_grants granted]
    simp only [succeed, purpose]
    apply continues_finish
    have stands : ((system.handles thread).modify parent (·.withState .active)).standing
        = (system.handles thread).standing := by
      apply Handles.standing_modify_of_same
      intro handle found
      cases suits.2.2.2.symm.trans found
      rfl
    have restored := kept.trans (Kept.of_standing stands)
    cases drop with
    | false => simpa [handles, giving, Operation.Leaves] using restored
    | true =>
        refine ⟨?_, ?_⟩
        · simpa [handles] using restored.trans Kept.erased
        · simp [handles, Handles.get?_erase]
  · apply continues_carryOn
    cases drop <;>
      exact ⟨by simpa [handles] using kept, pursuit, parent, Or.inr rfl, purpose⟩
  · cases suits.1.symm.trans (attempt.request_of_refused refused)

/-- The exclusive holds that a wait has given up are got back. -/
theorem continues_of_resuming {id : HandleId} {name : String} {timeout : Option Duration}
    {signalled : Bool} (reachable : system.Reachable)
    (same : (system.handles thread).standing = before.standing)
    (attempt : Attempt system thread pursuit result) (purpose : pursuit.purpose = .resume signalled) :
    (Operation.wait id name timeout).Continues before thread
      (system.settle thread pursuit now result) := by
  have suits : pursuit.Suits (system.handles thread) :=
    (accounts_of_reachable reachable thread).suits _ attempt.activity
  simp only [Pursuit.Suits, purpose] at suits
  rcases result with ⟨lock, outcome⟩
  have stands : ((system.setLock pursuit.lock lock).handles thread).standing = before.standing := by
    simpa [handles] using same
  rcases Section.settled_cases reachable attempt suits.2 with granted | rfl | ⟨error, refused⟩
  · rw [settle_of_grants granted]
    simp only [succeed, purpose]
    exact continues_finish stands
  · apply continues_carryOn
    exact ⟨stands, Or.inr ⟨pursuit, signalled, Or.inr rfl, purpose⟩⟩
  · rcases suits.1 with ⟨holds, resumes⟩
    cases resumes.symm.trans (attempt.request_of_refused refused)

/-- A thread that waits for a condition parks there again, or goes on to get its holds back. -/
theorem continues_of_waiting {id : HandleId} {condition name : String} {timeout : Option Duration}
    {place : LockId} {holds : Nat} {move : Move} {stepped : Stepped}
    (same : (system.handles thread).standing = before.standing)
    (waiting : system.activity thread = .waiting place name holds)
    (performed : system.perform now move = some stepped) (mine : move.thread = thread) :
    (Operation.wait id condition timeout).Continues before thread stepped := by
  subst mine
  have left (signalled : Bool) : (Operation.wait id condition timeout).Continues before move.thread
      (system.leave now move.thread place name holds signalled) := by
    apply continues_carryOn
    exact ⟨by simpa [handles] using same, Or.inr ⟨_, signalled, Or.inl rfl, rfl⟩⟩
  cases perform_eq_some_iff.mp performed with
  | stay waits => exact Or.inl ⟨rfl, same, Or.inl ⟨place, name, holds, waiting⟩⟩
  | leave waits | leaveLate waits =>
      cases waits.symm.trans waiting
      exact left _
  | begin _ doing | ask doing | notify doing | wake doing | expire doing =>
      cases doing.symm.trans waiting

theorem continues_of_notifying {condition name : String} {which all : Bool} {move : Move}
    {stepped : Stepped} (same : (system.handles thread).standing = before.standing)
    (notifying : system.activity thread = .notifying name all)
    (performed : system.perform now move = some stepped) (mine : move.thread = thread) :
    (Operation.signal condition which).Continues before thread stepped := by
  subst mine
  cases perform_eq_some_iff.mp performed with
  | notify => exact continues_finish same
  | begin _ doing | ask doing | wake doing | expire doing | stay doing | leave doing | leaveLate doing =>
      cases doing.symm.trans notifying

/-- A thread in the middle of an operation goes on with it. -/
theorem Operation.Amid.continues {move : Move} {stepped : Stepped} (reachable : system.Reachable)
    (amid : operation.Amid before (system.threads.get thread))
    (performed : system.perform now move = some stepped) (mine : move.thread = thread)
    (busy : ∀ operation, move ≠ .begin thread operation) :
    operation.Continues before thread stepped := by
  have accounts := accounts_of_reachable reachable
  cases operation with
  | shared lock timeout | exclusive lock timeout | upgrade id =>
      rcases amid with ⟨same, pursuit, pursues, purpose⟩
      rcases settles_of_perform pursues performed mine busy with ⟨result, attempt, rfl⟩
      exact continues_of_taking accounts rfl same attempt purpose
  | release id =>
      rcases amid with ⟨kept, pursuit, parent, pursues, purpose⟩
      rcases settles_of_perform pursues performed mine busy with ⟨result, attempt, rfl⟩
      exact continues_of_restoring reachable kept attempt purpose
  | drop id =>
      rcases amid with ⟨kept, pursuit, parent, pursues, purpose⟩
      rcases settles_of_perform pursues performed mine busy with ⟨result, attempt, rfl⟩
      exact continues_of_restoring reachable kept attempt purpose
  | wait id name timeout =>
      rcases amid with ⟨same, ⟨place, name, holds, waiting⟩ | ⟨pursuit, signalled, pursues, purpose⟩⟩
      · exact continues_of_waiting same waiting performed mine
      · rcases settles_of_perform pursues performed mine busy with ⟨result, attempt, rfl⟩
        exact continues_of_resuming reachable same attempt purpose
  | signal name all =>
      rcases amid with ⟨same, name, all, notifying⟩
      exact continues_of_notifying same notifying performed mine

end GoingOn

end LockSystem

namespace Section

open LockSystem (Operation Reply Stepped)

variable {thread : ThreadId} {lock : LockId} {actions : List Action} {action : Action} {β : Type}

/-- A thread that is not in the middle of an operation, with its handles. -/
structure Rests (thread : ThreadId) (handles : Handles) (system : LockSystem) : Prop where
  reachable : system.Reachable
  idle : system.activity thread = .idle
  handles : system.handles thread = handles

theorem Rests.other {handles : Handles} {system : LockSystem} {now : Instant} {move : LockSystem.Move}
    {stepped : Stepped} (rests : Rests thread handles system) (apart : move.thread ≠ thread)
    (performed : system.perform now move = some stepped) : Rests thread handles stepped.state := by
  have same := LockSystem.thread_of_others performed apart
  refine ⟨rests.reachable.step performed, ?_, ?_⟩
  · rw [LockSystem.activity, same]
    exact rests.idle
  · rw [LockSystem.handles, same]
    exact rests.handles

/-- How far a call has come that began with some handles. -/
inductive Calling (thread : ThreadId) (operation : Operation) (before : Handles) : Config Reply → Prop
  where
  | begins {place : Place} (rests : Rests thread before place.system) :
      Calling thread operation before ⟨place, .ready (LockCalls.operate operation)⟩
  | amid {place : Place} (reachable : place.system.Reachable)
      (amid : operation.Amid before (place.system.threads.get thread)) :
      Calling thread operation before ⟨place, .pending true .finish⟩
  | done {place : Place} {reply : Reply} {after : Handles} (rests : Rests thread after place.system)
      (leaves : operation.Leaves before reply after) :
      Calling thread operation before ⟨place, .ready (.finish reply)⟩

theorem Calling.of_continues {operation : Operation} {before : Handles} {place : Place}
    {stepped : Stepped} (reachable : stepped.state.Reachable)
    (continues : operation.Continues before thread stepped) :
    Calling thread operation before ⟨place.after true stepped, .answered true .finish stepped.reply⟩ := by
  rcases continues with ⟨none, amid⟩ | ⟨reply, some, idle, leaves⟩
  · rw [none]
    exact .amid reachable amid
  · rw [some]
    exact .done ⟨reachable, idle, rfl⟩ leaves

theorem Calling.keep {operation : Operation} {before : Handles} {config next : Config Reply}
    (calling : Calling thread operation before config) (step : Step thread lock config action next) :
    Calling thread operation before next := by
  cases calling with
  | begins rests =>
      cases step with
      | other apart performed => exact .begins (rests.other apart performed)
      | begin permitted performed =>
          refine .of_continues (rests.reachable.step performed) ?_
          have coherent := (LockSystem.accounts_of_reachable rests.reachable thread).coherent
          rw [← rests.handles]
          exact (LockSystem.begins_of_perform performed).continues coherent.keyed
  | amid reachable amid =>
      cases step with
      | other apart performed =>
          refine .amid (reachable.step performed) ?_
          rw [LockSystem.thread_of_others performed apart]
          exact amid
      | goOn mine busy performed =>
          exact .of_continues (reachable.step performed) (amid.continues reachable performed mine busy)
  | done rests leaves =>
      cases step with
      | other apart performed => exact .done (rests.other apart performed) leaves

/-- A thread that rests does so again after a call, with the handles that the call leaves. -/
theorem leaves_of_operate {holds : LockSystem → Prop} {operation : Operation} {before : Handles}
    {start final : Place} {reply : Reply} (rests : Rests thread before start.system)
    (evaluates : Evaluates thread lock holds start (LockCalls.operate operation) actions reply final) :
    ∃ after, Rests thread after final.system ∧ operation.Leaves before reply after := by
  cases evaluates.kept (Calling thread operation before) (.begins rests) Calling.keep with
  | done rests leaves => exact ⟨_, rests, leaves⟩

end Section

end Coordination
