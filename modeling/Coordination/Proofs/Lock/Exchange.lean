import Coordination.Proofs.Lock.Calls
import Coordination.Proofs.Lock.Courses
import Coordination.Proofs.Lock.Exclusion

/-!
# Upgrades are all or nothing

An upgrade exchanges a shared hold for an exclusive one, and the release of the child exchanges it back.
In between the thread gives one hold up before it asks for the other, and other threads act meanwhile.
Still the upgrade either exchanges the holds or leaves everything as it was (`exchange_of_stretch`).

An upgrade is refused because the thread has other shared holds. These keep the exclusive lock from all
other threads while the upgrade gives its own hold up, and they let the thread have that hold back at
once, so it is never parked (`Turning.step`).
-/

namespace Coordination

namespace Handles

variable {handles : Handles} {id parent child : HandleId} {place : LockId} {upgraded : Bool}

/-- In the middle of an upgrade the handles stand for one shared hold less. -/
theorem holds_suspend (keyed : handles.Keyed)
    (found : handles.get? id = some (.shared place .active upgraded)) (lock : LockId) :
    handles.sharedHolds lock = (handles.modify id (·.withState .suspended)).sharedHolds lock
        + (if place = lock then 1 else 0) ∧
      (handles.modify id (·.withState .suspended)).exclusiveHolds lock = handles.exclusiveHolds lock := by
  have suspends := holds_modify keyed found (·.withState .suspended)
    (.shared place .suspended upgraded) rfl lock
  simp [Handle.sharesOn, Handle.excludesOn] at suspends
  exact ⟨suspends.1.symm, suspends.2⟩

/-- An upgrade that succeeds leaves the handle without its hold, and a child with one. -/
theorem holds_upgrade (keyed : handles.Keyed)
    (found : handles.get? id = some (.shared place .active upgraded)) (lock : LockId) :
    let after := ((handles.modify id (·.withState .suspended)).modify id Handle.afterUpgrade).add child
      (.exclusive place true (some id))
    handles.sharedHolds lock = after.sharedHolds lock + (if place = lock then 1 else 0) ∧
      after.exclusiveHolds lock = handles.exclusiveHolds lock + (if place = lock then 1 else 0) := by
  have suspends := holds_modify keyed found
    (Handle.afterUpgrade ∘ (·.withState .suspended)) (.shared place .suspended true) rfl lock
  rw [← modify_modify] at suspends
  simp only [holds_add]
  simp [Handle.sharesOn, Handle.excludesOn] at suspends ⊢
  exact ⟨suspends.1.symm, suspends.2⟩

theorem get?_upgrade (found : handles.get? id = some (.shared place .active upgraded))
    (absent : handles.get? child = none) (key : HandleId) :
    (((handles.modify id (·.withState .suspended)).modify id Handle.afterUpgrade).add child
        (.exclusive place true (some id))).get? key
      = if key = child then some (.exclusive place true (some id))
        else if key = id then some (.shared place .suspended true)
        else handles.get? key := by
  rw [modify_modify, get?_add (by rw [get?_modify, absent, Option.map_none, ite_self]), get?_modify]
  by_cases made : child = key
  · simp [made]
  · by_cases same : id = key
    · subst same
      simp [made, Ne.symm made, found, Handle.withState, Handle.afterUpgrade]
    · simp [made, Ne.symm made, same, Ne.symm same]

/-- The handles after the release of a child, and after it was dropped. -/
theorem get?_restore {held : Bool} (drop : Bool)
    (found : handles.get? child = some (.exclusive place held (some parent)))
    (foundParent : handles.get? parent = some (.shared place .suspended upgraded)) (key : HandleId) :
    let restored := (handles.modify child Handle.afterRelease).modify parent (·.withState .active)
    (if drop then restored.erase child else restored).get? key
      = if key = child then (if drop then none else some (.exclusive place false (some parent)))
        else if key = parent then some (.shared place .active upgraded)
        else handles.get? key := by
  have apart : child ≠ parent := ne_of_get? foundParent found (by simp)
  intro restored
  have gives : restored.get? key
      = if key = child then some (.exclusive place false (some parent))
        else if key = parent then some (.shared place .active upgraded)
        else handles.get? key := by
    rw [get?_modify, get?_modify]
    by_cases mine : child = key
    · subst mine
      simp [apart.symm, found, Handle.afterRelease]
    · by_cases same : parent = key
      · subst same
        simp [mine, apart.symm, foundParent, Handle.withState]
      · simp [mine, Ne.symm mine, same, Ne.symm same]
  cases drop with
  | false => exact gives
  | true =>
      rw [if_pos rfl, get?_erase, gives]
      by_cases mine : child = key
      · simp [mine]
      · simp [mine, Ne.symm mine]

/-- The release of a child gives its hold back, and its parent has one again. -/
theorem holds_restore (drop : Bool) (keyed : handles.Keyed)
    (found : handles.get? child = some (.exclusive place true (some parent)))
    (foundParent : handles.get? parent = some (.shared place .suspended upgraded)) (lock : LockId) :
    let restored := (handles.modify child Handle.afterRelease).modify parent (·.withState .active)
    let after := if drop then restored.erase child else restored
    after.sharedHolds lock = handles.sharedHolds lock + (if place = lock then 1 else 0) ∧
      handles.exclusiveHolds lock = after.exclusiveHolds lock + (if place = lock then 1 else 0) := by
  intro restored after
  have apart : child ≠ parent := ne_of_get? foundParent found (by simp)
  have releases := holds_modify keyed found Handle.afterRelease (.exclusive place false (some parent))
    rfl lock
  have still : (handles.modify child Handle.afterRelease).get? parent
      = some (.shared place .suspended upgraded) := by
    rw [get?_modify, if_neg apart, foundParent]
  have restores := holds_modify (keyed_modify keyed) still (·.withState .active)
    (.shared place .active upgraded) rfl lock
  have same : after.sharedHolds lock = restored.sharedHolds lock ∧
      after.exclusiveHolds lock = restored.exclusiveHolds lock := by
    cases drop with
    | false => exact ⟨rfl, rfl⟩
    | true =>
        have inert : restored.get? child = some (.exclusive place false (some parent)) :=
          (get?_restore false found foundParent child).trans (if_pos rfl)
        exact holds_erase (keyed_modify (keyed_modify keyed)) inert rfl lock
  simp [Handle.sharesOn, Handle.excludesOn] at releases restores
  rw [same.1, same.2, restores.1, restores.2, releases.1, releases.2]
  exact ⟨rfl, rfl⟩

end Handles

namespace LockSystem

/-- One state has a shared hold of a thread where the other has an exclusive one. Its other holds, on this
lock and the others, are the same. -/
structure Exchanged (place : LockId) (thread : ThreadId) (reading writing : LockSystem) : Prop where
  shared : ∀ id, (reading.locks.get id).book.sharedHolds thread
    = (writing.locks.get id).book.sharedHolds thread + if place = id then 1 else 0
  exclusive : ∀ id, (writing.locks.get id).book.exclusiveHolds thread
    = (reading.locks.get id).book.exclusiveHolds thread + if place = id then 1 else 0

/-- How an upgrade goes, as long as it lasts, that is refused because of other shared holds. -/
structure Retreats (place : LockId) (thread : ThreadId) (first : Moment) (during : List Moment) :
    Prop where
  /-- The thread is never parked, but can always go on, and it has only two more steps to make. -/
  runs : ∀ moment ∈ first :: during, (∃ pursuit, moment.after.activity thread = .asking pursuit) ∧
    ∀ now, (moment.after.perform now (.proceed thread)).isSome = true
  brief : during.countP (·.move.thread = thread) ≤ 1
  /-- Nobody gets the exclusive lock in the meantime. -/
  vacant : ∀ moment ∈ first :: during, (moment.before.locks.get place).book.writer = none ∧
    (moment.after.locks.get place).book.writer = none

/-- How it ends. -/
structure Recovers (place : LockId) (thread : ThreadId) (others : Nat) (first last : Moment)
    (reply : Reply) : Prop where
  refused : reply = .refused (.upgradeNotPermitted others)
  vacant : (last.before.locks.get place).book.writer = none ∧
    (last.after.locks.get place).book.writer = none
  /-- The thread is idle again and all its handles are as before. -/
  restored : last.after.threads.get thread = first.before.threads.get thread
  holds : ∀ id, (last.after.locks.get id).book.sharedHolds thread
      = (first.before.locks.get id).book.sharedHolds thread ∧
    (last.after.locks.get id).book.exclusiveHolds thread
      = (first.before.locks.get id).book.exclusiveHolds thread

/-- What an upgrade that succeeds has done. -/
structure Upgrades (place : LockId) (thread : ThreadId) (parent child : HandleId)
    (before after : LockSystem) : Prop where
  exchanged : Exchanged place thread before after
  fresh : (before.handles thread).get? child = none
  idle : after.activity thread = .idle
  handles : ∀ key, (after.handles thread).get? key
    = if key = child then some (.exclusive place true (some parent))
      else if key = parent then some (.shared place .suspended true)
      else (before.handles thread).get? key

/-- What the release of a child has done. -/
structure Reverts (place : LockId) (thread : ThreadId) (parent child : HandleId) (drop : Bool)
    (before after : LockSystem) : Prop where
  exchanged : Exchanged place thread after before
  idle : after.activity thread = .idle
  handles : ∀ key, (after.handles thread).get? key
    = if key = child then (if drop then none else some (.exclusive place false (some parent)))
      else if key = parent then some (.shared place .active true)
      else (before.handles thread).get? key

/-- What upgrades, and the releases of the children that they make, do in a list of moments. -/
structure Exchange (moments : List Moment) : Prop where
  /-- A handle that was upgraded, or that has not its hold, is refused an upgrade, and nothing changes. If
  it has a child then it cannot even be used. -/
  barred : ∀ moment ∈ moments, ∀ {thread id place state upgraded error},
    moment.move = .begin thread (.upgrade id) →
      (moment.before.handles thread).get? id = some (.shared place state upgraded) →
        Handle.upgradeError? state upgraded = some error →
          moment.reply = some (if (moment.before.handles thread).isBorrowed id then .borrowed
            else .refused error) ∧ moment.before.Alike moment.after
  retreats : ∀ {thread id place first during others},
    Pends moments thread (.upgrade id) first during →
      (first.before.handles thread).get? id = some (.shared place .active false) →
        Section.Refusable thread place others first.before → Retreats place thread first during
  recovers : ∀ {thread id place first during last reply others},
    Spans moments thread (.upgrade id) first during last reply →
      (first.before.handles thread).get? id = some (.shared place .active false) →
        Section.Refusable thread place others first.before →
          Recovers place thread others first last reply
  succeeds : ∀ {thread id place first during last reply},
    Spans moments thread (.upgrade id) first during last reply →
      (first.before.handles thread).get? id = some (.shared place .active false) →
        (∀ others, ¬Section.Refusable thread place others first.before) →
          ∃ child, reply = .handle child ∧ Upgrades place thread id child first.before last.after
  reverts : ∀ {thread place parent child drop first during last reply},
    Spans moments thread (giving child drop) first during last reply →
      (first.before.handles thread).get? child = some (.exclusive place true (some parent)) →
        reply = .done ∧ Reverts place thread parent child drop first.before last.after
  /-- Any further release of the child changes nothing, but for the handle that it may do away with. -/
  again : ∀ moment ∈ moments, ∀ {thread place parent child drop},
    moment.move = .begin thread (giving child drop) →
      (moment.before.handles thread).get? child = some (.exclusive place false (some parent)) →
        moment.reply = some .done ∧
          (∀ id, moment.after.locks.get id = moment.before.locks.get id) ∧
          (∀ name, moment.after.conditions.get name = moment.before.conditions.get name) ∧
          (∀ other, thread ≠ other →
            moment.after.threads.get other = moment.before.threads.get other) ∧
          moment.after.threads.get thread
            = ⟨if drop then (moment.before.handles thread).erase child
                else moment.before.handles thread, .idle⟩

variable {system final : LockSystem} {thread : ThreadId} {now : Instant} {move : Move}
  {stepped : Stepped} {id parent child : HandleId} {place : LockId}

section Beginning

theorem barred_of_perform {state : HandleState} {upgraded : Bool} {error : LockError}
    (performed : system.perform now (.begin thread (.upgrade id)) = some stepped)
    (found : (system.handles thread).get? id = some (.shared place state upgraded))
    (fault : Handle.upgradeError? state upgraded = some error) :
    stepped.reply = some (if (system.handles thread).isBorrowed id then .borrowed
        else .refused error) ∧ system.Alike stepped.state := by
  have idle := idle_of_begin performed
  have begins := begins_of_perform performed
  cases borrowed : (system.handles thread).isBorrowed id with
  | true =>
      rw [begins.unique (.borrowed rfl found borrowed)]
      exact ⟨rfl, alike_finish idle _ _⟩
  | false =>
      rw [begins.unique (.refuseUpgrade found fault borrowed)]
      exact ⟨rfl, alike_finish idle _ _⟩

theorem begins_upgrade (reachable : system.Reachable)
    (performed : system.perform now (.begin thread (.upgrade id)) = some stepped)
    (found : (system.handles thread).get? id = some (.shared place .active false)) :
    stepped.state.threads.get thread
      = ⟨(system.handles thread).modify id (·.withState .suspended),
        .asking { purpose := .upgrade id, lock := place, request := .exclusive, since := now }⟩ := by
  have coherent := (accounts_of_reachable reachable thread).coherent
  have free := Handles.free_of_childless coherent.keyed (coherent.childless found (by simp))
  rw [(begins_of_perform performed).unique (.upgrade found free)]
  simp [carryOn, handles]

theorem begins_release {drop : Bool} (reachable : system.Reachable)
    (performed : system.perform now (.begin thread (giving child drop)) = some stepped)
    (found : (system.handles thread).get? child = some (.exclusive place true (some parent))) :
    stepped.state.threads.get thread
      = ⟨(system.handles thread).modify child Handle.afterRelease,
        .asking
          { purpose := .restore child parent drop, lock := place, request := .shared, since := now }⟩ := by
  have free := free_of_exclusive reachable found
  rw [(begins_of_perform performed).unique (.releaseChild drop found free)]
  simp [carryOn, handles]

theorem again_of_perform {drop : Bool} (reachable : system.Reachable)
    (performed : system.perform now (.begin thread (giving child drop)) = some stepped)
    (found : (system.handles thread).get? child = some (.exclusive place false (some parent))) :
    stepped.reply = some .done ∧
      (∀ id, stepped.state.locks.get id = system.locks.get id) ∧
      (∀ name, stepped.state.conditions.get name = system.conditions.get name) ∧
      (∀ other, thread ≠ other → stepped.state.threads.get other = system.threads.get other) ∧
      stepped.state.threads.get thread
        = ⟨if drop then (system.handles thread).erase child else system.handles thread, .idle⟩ := by
  have free := free_of_exclusive reachable found
  rw [(begins_of_perform performed).unique (.discard drop found rfl free)]
  refine ⟨rfl, ?_, ?_, ?_, ?_⟩
  · intro id
    cases drop <;> rfl
  · intro name
    cases drop <;> rfl
  · intro other apart
    cases drop <;> simp [forget, finish, apart]
  · cases drop <;> simp [forget, finish, handles]

end Beginning

section Refusing

open Section (Serves Refusable)

variable {pursuit : Pursuit} {others : Nat}

/-- The state of a thread that is in the middle of an upgrade and has other shared holds. It asks for the
exclusive lock, and then for the hold that it has given up. -/
structure Turning (id : HandleId) (place : LockId) (others : Nat) (state : Thread) : Prop where
  asks : ∃ pursuit, state.activity = .asking pursuit ∧
    (Serves pursuit (.upgrade id) place .exclusive ∨
      Serves pursuit (.recover id (.upgradeNotPermitted others)) place .shared)
  positive : 1 ≤ others
  reads : state.handles.sharedHolds place = others
  unowned : state.handles.exclusiveHolds place = 0

/-- The number of requests that an upgrade makes at most after the one that it is about to make. -/
def Activity.ahead : Activity → Nat
  | .asking pursuit =>
      match pursuit.purpose with
      | .upgrade _ => 1
      | _ => 0
  | _ => 0

theorem Turning.holds (turning : Turning id place others (system.threads.get thread))
    (reachable : system.Reachable) :
    (system.locks.get place).book.sharedHolds thread = others ∧
      (system.locks.get place).book.exclusiveHolds thread = 0 := by
  rcases turning with ⟨⟨pursuit, asking, serves⟩, _, reads, unowned⟩
  have pursues : (system.activity thread).Pursues pursuit := Or.inl asking
  have unowed : (system.activity thread).owed place = 0 := by
    refine pursues.owed_eq_zero (fun holds resumes => ?_) place
    rcases serves with serves | serves <;> cases serves.request.symm.trans resumes
  have holds := holds_of_unowed reachable unowed
  exact ⟨holds.1.trans reads, holds.2.trans unowned⟩

/-- Next to a thread that only reads there is no writer. -/
theorem writer_eq_none_of_reader (reachable : system.Reachable)
    (reads : 0 < (system.locks.get place).book.sharedHolds thread)
    (unowned : (system.locks.get place).book.exclusiveHolds thread = 0) :
    (system.locks.get place).book.writer = none := by
  have sound := ((queues_of_reachable reachable).sound place).book
  rw [Option.eq_none_iff_forall_ne_some]
  intro owner writer
  by_cases own : thread = owner
  · subst own
    have held := (Book.exclusiveHolds_pos_iff sound thread).mpr writer
    omega
  · have none := sound.alone writer own
    omega

theorem Turning.vacant (turning : Turning id place others (system.threads.get thread))
    (reachable : system.Reachable) : (system.locks.get place).book.writer = none := by
  have holds := turning.holds reachable
  exact writer_eq_none_of_reader reachable (holds.1 ▸ turning.positive) holds.2

/-- The exclusive lock is refused, and the thread asks for the hold that it has given up. Its other shared
holds let it have that one at once. -/
theorem Turning.step (turning : Turning id place others (system.threads.get thread))
    (reachable : system.Reachable) (performed : system.perform now move = some stepped)
    (own : move.thread = thread) :
    (stepped.reply = none ∧ Turning id place others (stepped.state.threads.get thread) ∧
        stepped.state.handles thread = system.handles thread ∧
        (stepped.state.activity thread).ahead < (system.activity thread).ahead) ∨
      stepped.reply = some (.refused (.upgradeNotPermitted others)) ∧
        stepped.state.threads.get thread
          = ⟨(system.handles thread).modify id (·.withState .active), .idle⟩ := by
  subst own
  have holds := turning.holds reachable
  have sound := (queues_of_reachable reachable).sound place
  rcases turning with ⟨⟨pursuit, asking, serves⟩, positive, reads, unowned⟩
  have pursues : (system.activity move.thread).Pursues pursuit := Or.inl asking
  rcases settles_of_perform pursues performed rfl (not_begin_of_pursues performed pursues) with
    ⟨⟨lock, outcome⟩, attempt, rfl⟩
  have outcomes : outcome = _ := congrArg Prod.snd (attempt.eq_ask asking)
  rcases serves with serves | serves
  · have stranger : (system.locks.get place).book.writer ≠ some move.thread := by
      intro writer
      have held := (Book.exclusiveHolds_pos_iff sound.book move.thread).mpr writer
      omega
    have refused : outcome = .refused (.upgradeNotPermitted others) := by
      rw [outcomes, Lock.ask_eq_refused_iff, serves.there, holds.1]
      exact ⟨serves.request, stranger, positive, rfl⟩
    subst refused
    have ahead : (system.activity move.thread).ahead = 1 := by
      rw [activity, asking, Activity.ahead, serves.purpose]
    have asks : (system.settle move.thread pursuit now
          (lock, .refused (.upgradeNotPermitted others))).state.threads.get move.thread
        = ⟨system.handles move.thread,
          .asking
            { purpose := .recover id (.upgradeNotPermitted others), lock := place, request := .shared,
              since := now }⟩ := by
      simp [settle, refuse, serves.purpose, serves.there, carryOn, handles]
    refine Or.inl ⟨by simp [settle, refuse, serves.purpose, carryOn], ?_, ?_, ?_⟩
    · rw [asks]
      exact ⟨⟨_, rfl, Or.inr ⟨rfl, rfl, rfl, rfl⟩⟩, positive, reads, unowned⟩
    · rw [handles, asks]
    · rw [ahead, activity, asks]
      exact Nat.zero_lt_one
  · have granted : outcome.grants = true := by
      have reader : ¬(system.locks.get place).book.Holdless move.thread := by
        intro holdless
        have none := holdless.1
        omega
      rw [outcomes, serves.there, serves.request, Lock.ask_shared_of_not_holdless sound reader]
      rfl
    have ends := state_of_grants system move.thread now pursuit lock granted
    simp only [Pursuit.grants, serves.purpose] at ends
    exact Or.inr ⟨ends.2, ends.1⟩

/-- An upgrade that is about to be refused has given its hold up. -/
theorem turning_of_begin (reachable : system.Reachable)
    (performed : system.perform now (.begin thread (.upgrade id)) = some stepped)
    (found : (system.handles thread).get? id = some (.shared place .active false))
    (refusable : Refusable thread place others system) :
    Turning id place others (stepped.state.threads.get thread) ∧
      stepped.state.handles thread = (system.handles thread).modify id (·.withState .suspended) := by
  have idle := idle_of_begin performed
  have accounts := accounts_of_reachable reachable
  have holds := accounts.holds_of_idle idle place
  have suspends := Handles.holds_suspend (accounts thread).coherent.keyed found place
  have asks := begins_upgrade reachable performed found
  rcases refusable with ⟨reads, positive, unowned⟩
  rw [handles, asks]
  refine ⟨⟨⟨_, rfl, Or.inl ⟨rfl, rfl, rfl, rfl⟩⟩, positive, ?_, ?_⟩, rfl⟩
  · rw [if_pos rfl] at suspends
    exact Nat.succ.inj (suspends.1.symm.trans (holds.1.symm.trans reads))
  · exact suspends.2.trans (holds.2.symm.trans unowned)

theorem course_of_turning (before : Handles) (id : HandleId) (place : LockId) (others : Nat)
    (thread : ThreadId) :
    Course thread (fun state => state.handles = before ∧ Turning id place others state)
      (fun reply state => reply = .refused (.upgradeNotPermitted others) ∧
        state = ⟨before.modify id (·.withState .active), .idle⟩) := by
  refine ⟨?_⟩
  rintro system now move stepped reachable ⟨rfl, turning⟩ performed own
  rcases turning.step reachable performed own with ⟨silent, still, same, _⟩ | ⟨replies, ends⟩
  · exact Or.inl ⟨silent, same, still⟩
  · exact Or.inr ⟨_, replies, rfl, ends⟩

theorem retreats_of_pends {moments during : List Moment} {first : Moment} (reachable : system.Reachable)
    (stretch : Stretch system moments final)
    (pends : Pends moments thread (.upgrade id) first during)
    (found : (first.before.handles thread).get? id = some (.shared place .active false))
    (refusable : Refusable thread place others first.before) : Retreats place thread first during := by
  rcases pends.begun reachable stretch with ⟨began, stepped, performed, after⟩
  have continues (moment : Moment) (mem : moment ∈ during) :=
    stretch.happens reachable moment (pends.mem.2 moment mem)
  have turns := turning_of_begin began.reachable performed found refusable
  rw [← after] at turns
  have amid := (course_of_turning _ id place others thread).pends reachable stretch pends
    ⟨turns.2, turns.1⟩
  have turning (moment : Moment) (mem : moment ∈ first :: during) :
      moment.after.Reachable ∧ Turning id place others (moment.after.threads.get thread) := by
    rcases List.mem_cons.mp mem with rfl | later
    · exact ⟨began.after, turns.1⟩
    · exact ⟨(continues moment later).after, (amid moment later).2.2⟩
  refine ⟨?_, ?_, ?_⟩
  · intro moment mem
    rcases (turning moment mem).2.asks with ⟨pursuit, asking, _⟩
    exact ⟨⟨pursuit, asking⟩, fun now => Option.isSome_of_eq_some (Advance.ask asking).performs⟩
  · rcases pends.stretch reachable stretch with ⟨_, ending, through, _⟩
    have most : (first.after.threads.get thread).activity.ahead ≤ 1 := by
      rcases turns.1.asks with ⟨pursuit, asking, serves | serves⟩ <;>
        simp [asking, Activity.ahead, serves.purpose]
    have falls (moment : Moment) (mem : moment ∈ during) (own : moment.move.thread = thread) :
        (moment.after.threads.get thread).activity.ahead
          < (moment.before.threads.get thread).activity.ahead := by
      rcases (continues moment mem).performed with ⟨next, steps, same, replies⟩
      rcases (amid moment mem).1.2.step (continues moment mem).reachable steps own with
        ⟨_, _, _, fewer⟩ | ⟨refused, _⟩
      · rw [same]
        exact fewer
      · cases (refused.symm.trans replies.symm).trans (pends.pending moment mem own)
    have bound := through.countP_le (fun state => state.activity.ahead) falls
    omega
  · intro moment mem
    refine ⟨?_, (turning moment mem).2.vacant (turning moment mem).1⟩
    rcases List.mem_cons.mp mem with rfl | later
    · exact writer_eq_none_of_reader began.reachable (by rw [refusable.1]; omega) refusable.2.2
    · exact (amid moment later).1.2.vacant (continues moment later).reachable

theorem recovers_of_spans {moments during : List Moment} {first last : Moment} {reply : Reply}
    (reachable : system.Reachable) (stretch : Stretch system moments final)
    (spans : Spans moments thread (.upgrade id) first during last reply)
    (found : (first.before.handles thread).get? id = some (.shared place .active false))
    (refusable : Refusable thread place others first.before) :
    Recovers place thread others first last reply := by
  rcases spans.pends.begun reachable stretch with ⟨began, stepped, performed, after⟩
  have ending := stretch.happens reachable last spans.mem.2.2
  have idle := idle_of_begin performed
  have turns := turning_of_begin began.reachable performed found refusable
  rw [← after] at turns
  have course := course_of_turning ((first.before.handles thread).modify id (·.withState .suspended))
    id place others thread
  rcases course.spans reachable stretch spans ⟨turns.2, turns.1⟩ with ⟨still, refused, ends⟩
  have restored : last.after.threads.get thread = first.before.threads.get thread := by
    have keyed : (first.before.handles thread).Keyed :=
      (accounts_of_reachable began.reachable thread).coherent.keyed
    rw [ends, Handles.modify_modify, Handles.modify_eq_self keyed found rfl, ← idle]
    rfl
  have rests : last.after.activity thread = .idle := by rw [activity, ends]
  have holds := holds_of_handles began.reachable ending.after idle rests
    (congrArg Thread.handles restored)
  have vacant := still.2.vacant ending.reachable
  refine ⟨refused, ⟨vacant, ?_⟩, restored, holds⟩
  refine writer_eq_none_of_reader ending.after ?_ ((holds place).2.trans refusable.2.2)
  rw [(holds place).1, refusable.1]
  exact Nat.succ_pos others

end Refusing

section Succeeding

open Section (Serves Refusable)

/-- A thread that is after a hold gets it in the end, unless the exclusive lock is refused to it for the
sake of its shared holds. -/
theorem course_of_serving (before : Handles) (purpose : Purpose) (place : LockId) (request : Request)
    (thread : ThreadId)
    (permitted : request = .exclusive → before.sharedHolds place = 0 ∨ 0 < before.exclusiveHolds place) :
    Course thread
      (fun state => state.handles = before ∧
        ∃ pursuit, state.activity.Pursues pursuit ∧ Serves pursuit purpose place request)
      (fun reply state => ∃ pursuit next, Serves pursuit purpose place request ∧
        before.get? next = none ∧ reply = (pursuit.grants before next).2 ∧
          state = ⟨(pursuit.grants before next).1, .idle⟩) := by
  refine ⟨?_⟩
  rintro system now move stepped reachable ⟨rfl, pursuit, pursues, serves⟩ performed own
  have accounts := accounts_of_reachable reachable thread
  rcases patient_cases reachable performed own pursues serves.patient with
    ⟨silent, again⟩ | ⟨replies, ends⟩ | ⟨exclusive, _, stranger, reads⟩
  · rw [again]
    exact Or.inl ⟨silent, rfl, pursuit, Or.inr rfl, serves⟩
  · exact Or.inr ⟨_, replies, pursuit, system.nextHandle, serves,
      accounts.books.numbered _ (Nat.le_refl _), rfl, ends⟩
  · have sound := ((queues_of_reachable reachable).sound place).book
    have unowed : (system.activity thread).owed place = 0 :=
      pursues.owed_eq_zero (by simp [exclusive]) place
    have holds := holds_of_unowed reachable unowed
    rw [serves.there] at stranger reads
    rw [ne_eq, ← Book.exclusiveHolds_pos_iff sound] at stranger
    rcases permitted (serves.request.symm.trans exclusive) with none | some
    · exact absurd (holds.1.trans none) (Nat.ne_of_gt reads)
    · exact absurd (holds.2 ▸ some) stranger

/-- An exchange of the holds of a thread, told by its handles. -/
theorem exchanged_of_handles (reachable : system.Reachable) (reachable' : final.Reachable)
    (idle : system.activity thread = .idle) (idle' : final.activity thread = .idle)
    (exchanged : ∀ id, (system.handles thread).sharedHolds id
        = (final.handles thread).sharedHolds id + (if place = id then 1 else 0) ∧
      (final.handles thread).exclusiveHolds id
        = (system.handles thread).exclusiveHolds id + if place = id then 1 else 0) :
    Exchanged place thread system final := by
  have before (id : LockId) := (accounts_of_reachable reachable).holds_of_idle idle id
  have after (id : LockId) := (accounts_of_reachable reachable').holds_of_idle idle' id
  refine ⟨fun id => ?_, fun id => ?_⟩
  · rw [(before id).1, (after id).1]
    exact (exchanged id).1
  · rw [(before id).2, (after id).2]
    exact (exchanged id).2

theorem upgrades_of_spans {moments during : List Moment} {first last : Moment} {reply : Reply}
    (reachable : system.Reachable) (stretch : Stretch system moments final)
    (spans : Spans moments thread (.upgrade id) first during last reply)
    (found : (first.before.handles thread).get? id = some (.shared place .active false))
    (permitted : ∀ others, ¬Refusable thread place others first.before) :
    ∃ child, reply = .handle child ∧ Upgrades place thread id child first.before last.after := by
  rcases spans.pends.begun reachable stretch with ⟨began, stepped, performed, after⟩
  have ended := (stretch.happens reachable last spans.mem.2.2).after
  have idle := idle_of_begin performed
  have accounts := accounts_of_reachable began.reachable
  have keyed : (first.before.handles thread).Keyed := (accounts thread).coherent.keyed
  have allowed : ((first.before.handles thread).modify id (·.withState .suspended)).sharedHolds place = 0 ∨
      0 < ((first.before.handles thread).modify id (·.withState .suspended)).exclusiveHolds place := by
    have holds := accounts.holds_of_idle idle place
    have suspends := Handles.holds_suspend keyed found place
    rw [if_pos rfl] at suspends
    by_contra others
    rw [not_or, Nat.not_lt, Nat.le_zero, suspends.2] at others
    exact permitted _ ⟨holds.1.trans suspends.1, Nat.pos_of_ne_zero others.1, holds.2.trans others.2⟩
  have asks := begins_upgrade began.reachable performed found
  rw [← after] at asks
  rcases ((course_of_serving _ (.upgrade id) place .exclusive thread fun _ => allowed).spans reachable
    stretch spans (by rw [asks]; exact ⟨rfl, _, Or.inl rfl, rfl, rfl, rfl, rfl⟩)).2 with
    ⟨pursuit, child, serves, absent, replies, ends⟩
  simp only [Pursuit.grants, serves.purpose, serves.there] at replies ends
  have rests : last.after.activity thread = .idle := by rw [activity, ends]
  have fresh : (first.before.handles thread).get? child = none := by
    rw [Handles.get?_modify] at absent
    split at absent
    · exact Option.map_eq_none_iff.mp absent
    · exact absent
  refine ⟨child, replies, ?_, fresh, rests, fun key => ?_⟩
  · refine exchanged_of_handles began.reachable ended idle rests fun lock => ?_
    rw [show last.after.handles thread = _ from congrArg Thread.handles ends]
    exact Handles.holds_upgrade keyed found lock
  · rw [handles, ends]
    exact Handles.get?_upgrade found fresh key

theorem reverts_of_spans {moments during : List Moment} {first last : Moment} {reply : Reply}
    {drop : Bool} (reachable : system.Reachable) (stretch : Stretch system moments final)
    (spans : Spans moments thread (giving child drop) first during last reply)
    (found : (first.before.handles thread).get? child = some (.exclusive place true (some parent))) :
    reply = .done ∧ Reverts place thread parent child drop first.before last.after := by
  rcases spans.pends.begun reachable stretch with ⟨began, stepped, performed, after⟩
  have ended := (stretch.happens reachable last spans.mem.2.2).after
  have idle := idle_of_begin performed
  have coherent : (first.before.handles thread).Coherent _ :=
    (accounts_of_reachable began.reachable thread).coherent
  rcases coherent.parented found with ⟨state, foundParent, suspended⟩
  rw [suspended rfl] at foundParent
  have asks := begins_release began.reachable performed found
  rw [← after] at asks
  rcases ((course_of_serving _ (.restore child parent drop) place .shared thread (by simp)).spans
    reachable stretch spans (by rw [asks]; exact ⟨rfl, _, Or.inl rfl, rfl, rfl, rfl, rfl⟩)).2 with
    ⟨pursuit, _, serves, _, replies, ends⟩
  simp only [Pursuit.grants, serves.purpose] at replies ends
  have rests : last.after.activity thread = .idle := by rw [activity, ends]
  refine ⟨replies, ?_, rests, fun key => ?_⟩
  · refine exchanged_of_handles ended began.reachable rests idle fun lock => ?_
    rw [show last.after.handles thread = _ from congrArg Thread.handles ends]
    exact Handles.holds_restore drop coherent.keyed found foundParent lock
  · rw [handles, ends]
    exact Handles.get?_restore drop found foundParent key

end Succeeding

/-- **Upgrades are all or nothing**, in every schedule, and a child that is released has its parent's hold
restored, once. -/
theorem exchange_of_stretch {moments : List Moment} (reachable : system.Reachable)
    (stretch : Stretch system moments final) : Exchange moments := by
  have happens := stretch.happens reachable
  refine ⟨?_, fun pends found refusable => retreats_of_pends reachable stretch pends found refusable,
    fun spans found refusable => recovers_of_spans reachable stretch spans found refusable,
    fun spans found permitted => upgrades_of_spans reachable stretch spans found permitted,
    fun spans found => reverts_of_spans reachable stretch spans found, ?_⟩
  · rintro ⟨before, now, move, after, reply⟩ mem thread id place state upgraded error rfl found fault
    rcases happens _ mem with ⟨reached, stepped, performed, rfl, rfl⟩
    exact barred_of_perform performed found fault
  · rintro ⟨before, now, move, after, reply⟩ mem thread place parent child drop rfl found
    rcases happens _ mem with ⟨reached, stepped, performed, rfl, rfl⟩
    exact again_of_perform reached performed found

/-- A thread with two shared handles upgrades one of them while a writer comes and queues, and is refused.
It gives the other one back and upgrades again. Now the writer goes first. The child is released, once
more, and dropped, and the handle cannot be upgraded any more. -/
def trading : List (Instant × Move) :=
  [.begin 0 (.shared 0 none), .proceed 0, .begin 0 (.shared 0 none), .proceed 0,
    .begin 0 (.upgrade 0), .begin 1 (.exclusive 0 none), .proceed 1, .proceed 0, .proceed 0,
    .begin 0 (.release 1), .begin 0 (.upgrade 0), .wake 1, .proceed 0, .begin 1 (.drop 2), .wake 0,
    .begin 0 (.upgrade 0), .begin 0 (.release 3), .proceed 0, .begin 0 (.release 3),
    .begin 0 (.drop 3), .begin 0 (.upgrade 0)].map (0, ·)

theorem exchange_of_trading :
    let moments := trace {} trading
    Reachable {} ∧ Exchange moments ∧
      moments.filterMap (·.reply) = [.handle 0, .handle 1, .refused (.upgradeNotPermitted 1), .done,
        .handle 2, .done, .handle 3, .borrowed, .done, .done, .done,
        .refused (.illegalUpgradeState "handle was already upgraded")] ∧
      (∃ first during last reply, Spans moments 0 (.upgrade 0) first during last reply ∧
        Retreats 0 0 first during ∧ Recovers 0 0 1 first last reply) ∧
      (∃ first during last reply child, Spans moments 0 (.upgrade 0) first during last reply ∧
        reply = .handle child ∧ Upgrades 0 0 0 child first.before last.after) ∧
      ∃ first during last reply, Spans moments 0 (.release 3) first during last reply ∧
        Reverts 0 0 0 3 false first.before last.after := by
  intro moments
  have exchange : Exchange moments :=
    exchange_of_stretch ⟨[], run_empty⟩ (stretch_follow {} trading)
  have refused : Spans moments 0 (.upgrade 0) (moments.get ⟨4, by decide⟩) ((moments.drop 5).take 3)
      (moments.get ⟨8, by decide⟩) (.refused (.upgradeNotPermitted 1)) :=
    ⟨⟨moments.take 4, moments.drop 9, rfl⟩, by decide, by decide, by decide, by decide⟩
  have upgraded : Spans moments 0 (.upgrade 0) (moments.get ⟨10, by decide⟩) ((moments.drop 11).take 3)
      (moments.get ⟨14, by decide⟩) (.handle 3) :=
    ⟨⟨moments.take 10, moments.drop 15, rfl⟩, by decide, by decide, by decide, by decide⟩
  have released : Spans moments 0 (giving 3 false) (moments.get ⟨16, by decide⟩) []
      (moments.get ⟨17, by decide⟩) .done :=
    ⟨⟨moments.take 16, moments.drop 18, rfl⟩, by decide, by decide, by decide, by decide⟩
  have refusable : Section.Refusable 0 0 1 (moments.get ⟨4, by decide⟩).before :=
    ⟨by decide, by decide, by decide⟩
  have permitted (others : Nat) :
      ¬Section.Refusable 0 0 others (moments.get ⟨10, by decide⟩).before := by
    have single : ((moments.get ⟨10, by decide⟩).before.locks.get 0).book.sharedHolds 0 = 1 := by decide
    rintro ⟨reads, some, _⟩
    omega
  have whole : ((moments.get ⟨4, by decide⟩).before.handles 0).get? 0 = some (.shared 0 .active false) := by
    decide
  have again : ((moments.get ⟨10, by decide⟩).before.handles 0).get? 0 = some (.shared 0 .active false) := by
    decide
  have held : ((moments.get ⟨16, by decide⟩).before.handles 0).get? 3
      = some (.exclusive 0 true (some 0)) := by decide
  rcases exchange.succeeds upgraded again permitted with ⟨child, made, upgrades⟩
  refine ⟨⟨[], run_empty⟩, exchange, by decide, ⟨_, _, _, _, refused, ?_, ?_⟩,
    ⟨_, _, _, _, child, upgraded, made, upgrades⟩, ⟨_, _, _, _, released, ?_⟩⟩
  · exact exchange.retreats refused.pends whole refusable
  · exact exchange.recovers refused whole refusable
  · exact (exchange.reverts released held).2

end LockSystem

end Coordination
