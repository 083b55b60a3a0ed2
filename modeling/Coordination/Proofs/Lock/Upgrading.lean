import Coordination.Proofs.Lock.Execution

/-!
# Holds of sections

What a section does with a lock for itself: it asks for a shared hold, and it upgrades the handle. The
first always ends with a handle that has its hold (`held_of_shared`), the second with a child that has
its hold, or with a refusal because of the other shared holds of the thread (`held_of_upgrade`). Other
threads do not change the holds of the thread (`holds_of_others`), so what decides is what the thread
had when it began to upgrade.

Meanwhile and in between, a section keeps the handle that it has made for itself, whatever its callbacks
do (`Retained.runs`).
-/

namespace Coordination

namespace LockSystem

variable {system : LockSystem} {thread : ThreadId} {now : Instant} {move : Move} {stepped : Stepped}

theorem Reachable.step (reachable : system.Reachable) (performed : system.perform now move = some stepped) :
    stepped.state.Reachable := by
  rcases reachable with ⟨events, run⟩
  exact ⟨_, run.step performed⟩

/-- A thread that does not make the step is left as it was. -/
theorem thread_of_others (performed : system.perform now move = some stepped)
    (apart : move.thread ≠ thread) : stepped.state.threads.get thread = system.threads.get thread := by
  rcases perform_transition performed with ⟨change, _, stores⟩
  exact stores.others thread apart

/-- The steps of other threads do not change the holds of a thread. -/
theorem holds_of_others (reachable : system.Reachable)
    (performed : system.perform now move = some stepped) (apart : move.thread ≠ thread) (lock : LockId) :
    (stepped.state.locks.get lock).book.sharedHolds thread
        = (system.locks.get lock).book.sharedHolds thread ∧
      (stepped.state.locks.get lock).book.exclusiveHolds thread
        = (system.locks.get lock).book.exclusiveHolds thread := by
  have before := (accounts_of_reachable reachable thread).books
  have after := (accounts_of_reachable (reachable.step performed) thread).books
  rw [thread_of_others performed apart] at after
  have shared := (after.shared lock).trans (before.shared lock).symm
  have exclusive := (after.exclusive lock).trans (before.exclusive lock).symm
  exact ⟨shared, Nat.add_right_cancel exclusive⟩

/-- A request is refused only when it is made. -/
theorem Attempt.asks_of_refused {pursuit : Pursuit} {result : Lock × Lock.Outcome} {error : LockError}
    (attempt : Attempt system thread pursuit result) (refused : result.2 = .refused error) :
    system.activity thread = .asking pursuit := by
  cases attempt with
  | ask asking => exact asking
  | @wake parked waiter found =>
      rcases Lock.attempt_outcome _ waiter.thread waiter.request waiter.deadline with
        outcome | outcome
      · cases refused.symm.trans outcome
      · cases refused.symm.trans outcome
  | @expire parked waiter found timed =>
      rcases Lock.expire_outcome (system.locks.get pursuit.lock) waiter with outcome | outcome
      · cases refused.symm.trans outcome
      · cases refused.symm.trans outcome

/-- Only a thread in the middle of an operation goes on with it. -/
theorem busy_of_perform (performed : system.perform now move = some stepped)
    (busy : ∀ operation, move ≠ .begin move.thread operation) : system.activity move.thread ≠ .idle := by
  intro idle
  cases perform_eq_some_iff.mp performed with
  | begin operation => exact busy operation rfl
  | ask doing | notify doing | wake doing | expire doing | stay doing | leave doing | leaveLate doing =>
      cases doing.symm.trans idle

/-- A thread that is after a hold settles its request with its next step. -/
theorem settles_of_perform {pursuit : Pursuit} (pursues : (system.activity thread).Pursues pursuit)
    (performed : system.perform now move = some stepped) (mine : move.thread = thread)
    (busy : ∀ operation, move ≠ .begin thread operation) :
    ∃ result, Attempt system thread pursuit result ∧
      stepped = system.settle thread pursuit now result := by
  subst mine
  cases perform_eq_some_iff.mp performed with
  | begin operation => exact absurd rfl (busy operation)
  | ask asking =>
      rcases pursues with asks | parked
      · cases asking.symm.trans asks
        exact ⟨_, .ask asking, rfl⟩
      · cases asking.symm.trans parked
  | wake parked found =>
      rcases pursues with asking | parks
      · cases parked.symm.trans asking
      · cases parked.symm.trans parks
        exact ⟨_, .wake parked found, rfl⟩
  | expire parked found passed =>
      rcases pursues with asking | parks
      · cases parked.symm.trans asking
      · cases parked.symm.trans parks
        refine ⟨_, .expire parked found ?_, rfl⟩
        intro untimed
        simp [isOver, untimed] at passed
  | notify doing | stay doing | leave doing | leaveLate doing =>
      rcases pursues with asking | parked
      · cases doing.symm.trans asking
      · cases doing.symm.trans parked

theorem settle_of_grants {pursuit : Pursuit} {lock : Lock} {outcome : Lock.Outcome}
    (granted : outcome.grants = true) : system.settle thread pursuit now (lock, outcome)
      = (system.setLock pursuit.lock lock).succeed thread pursuit (entries lock pursuit now outcome) := by
  cases outcome <;> first | rfl | cases granted

/-- The handles of a thread after its request has been granted, and the reply. -/
def Pursuit.grants (pursuit : Pursuit) (handles : Handles) (id : HandleId) : Handles × Reply :=
  match pursuit.purpose with
  | .acquire => (handles.add id pursuit.handle, .handle id)
  | .upgrade parent =>
      ((handles.modify parent Handle.afterUpgrade).add id (.exclusive pursuit.lock true (some parent)),
        .handle id)
  | .recover parent error => (handles.modify parent (·.withState .active), .refused error)
  | .restore child parent drop =>
      let restored := handles.modify parent (·.withState .active)
      (if drop then restored.erase child else restored, .done)
  | .resume signalled => (handles, .waited signalled)

theorem state_of_grants (system : LockSystem) (thread : ThreadId) (now : Instant) (pursuit : Pursuit)
    (lock : Lock) {outcome : Lock.Outcome} (granted : outcome.grants = true) :
    (system.settle thread pursuit now (lock, outcome)).state.threads.get thread
        = ⟨(pursuit.grants (system.handles thread) system.nextHandle).1, .idle⟩ ∧
      (system.settle thread pursuit now (lock, outcome)).reply
        = some (pursuit.grants (system.handles thread) system.nextHandle).2 := by
  rw [settle_of_grants granted]
  cases purpose : pursuit.purpose with
  | acquire => simp [succeed, purpose, Pursuit.grants, finish, handles, Pursuit.handle]
  | upgrade parent => simp [succeed, purpose, Pursuit.grants, finish, handles]
  | recover parent error => simp [succeed, purpose, Pursuit.grants, finish, handles]
  | restore child parent drop => cases drop <;> simp [succeed, purpose, Pursuit.grants, finish, handles]
  | resume signalled => simp [succeed, purpose, Pursuit.grants, finish, handles]

theorem get?_addHandle (handle : Handle)
    (fresh : (system.handles thread).get? system.nextHandle = none) :
    ((system.addHandle thread handle).handles thread).get? system.nextHandle = some handle := by
  simp only [handles, get_threads_addHandle, if_true]
  exact (Handles.get?_add fresh).trans (if_pos rfl)

end LockSystem

namespace Section

open LockSystem (Operation Reply Stepped)

variable {β : Type}

/-- A task is what is left of a callback. -/
def Task.Calls (task : Task β) : Prop :=
  (∃ program, task = .ready (asCallback program)) ∨
    ∃ next : Reply → Program Operation Reply β, task = .pending false fun reply => asCallback (next reply)

/-- A section has a handle for itself, and the thread has not given its holds up for a while. -/
structure Retained (thread : ThreadId) (lock : LockId) (key : HandleId) (handle : Handle) (place : Place) :
    Prop where
  reachable : place.system.Reachable
  mine : key ∈ place.mine
  found : (place.system.handles thread).get? key = some handle
  free : (place.system.activity thread).owed lock = 0

/-- A thread has a shared hold. -/
def Shares (thread : ThreadId) (lock : LockId) (system : LockSystem) : Prop :=
  0 < (system.locks.get lock).book.sharedHolds thread

/-- A thread has the exclusive lock, and no other thread has any hold. -/
def Excludes (thread : ThreadId) (lock : LockId) (system : LockSystem) : Prop :=
  (system.locks.get lock).book.writer = some thread ∧
    ∀ other, other ≠ thread → (system.locks.get lock).book.sharedHolds other = 0 ∧
      (system.locks.get lock).book.exclusiveHolds other = 0

variable {thread : ThreadId} {lock : LockId} {key : HandleId} {handle : Handle} {place : Place}
  {actions : List Action} {action : Action}

theorem Task.calls_answered {next : Reply → Program Operation Reply β} (reply : Option Reply) :
    (Task.answered false (fun reply => asCallback (next reply)) reply).Calls := by
  cases reply with
  | some reply => exact Or.inl ⟨next reply, rfl⟩
  | none => exact Or.inr ⟨next, rfl⟩

namespace Retained

theorem shares {upgraded : Bool}
    (retained : Retained thread lock key (.shared lock .active upgraded) place) :
    Shares thread lock place.system :=
  (LockSystem.accounts_of_reachable retained.reachable thread).books.shares_pos retained.found lock
    (by simp [Handle.sharesOn])

theorem excludes {parent : Option HandleId}
    (retained : Retained thread lock key (.exclusive lock true parent) place) :
    Excludes thread lock place.system := by
  have books := (LockSystem.accounts_of_reachable retained.reachable thread).books
  have held := books.excludes_pos retained.found lock (by simp [Handle.excludesOn])
  have sound := ((LockSystem.queues_of_reachable retained.reachable).sound lock).book
  have writer : (place.system.locks.get lock).book.writer = some thread := by
    rw [← Book.exclusiveHolds_pos_iff sound]
    have free : (place.system.threads.get thread).activity.owed lock = 0 := retained.free
    omega
  refine ⟨writer, ?_⟩
  intro other apart
  refine ⟨sound.alone writer apart, ?_⟩
  by_contra some
  have also := (Book.exclusiveHolds_pos_iff sound other).mp (Nat.pos_of_ne_zero some)
  exact apart (Option.some.inj (also.symm.trans writer))

/-- Other threads leave the handle of a section alone. -/
theorem other {now : Instant} {move : LockSystem.Move} {stepped : Stepped}
    (retained : Retained thread lock key handle place) (apart : move.thread ≠ thread)
    (performed : place.system.perform now move = some stepped) :
    Retained thread lock key handle { place with system := stepped.state } := by
  have same := LockSystem.thread_of_others performed apart
  rcases retained with ⟨reachable, mine, found, free⟩
  refine ⟨reachable.step performed, mine, ?_, ?_⟩
  · rw [LockSystem.handles, same]
    exact found
  · rw [LockSystem.activity, same]
    exact free

/-- A section keeps its handle while a callback runs. -/
theorem keep {config next : Config β} (retained : Retained thread lock key handle config.place)
    (calls : config.task.Calls) (active : handle.isActive = true)
    (step : Step thread lock config action next) :
    Retained thread lock key handle next.place ∧ next.task.Calls := by
  have own := retained
  rcases retained with ⟨reachable, mine, found, free⟩
  cases step with
  | other apart performed => exact ⟨own.other apart performed, calls⟩
  | begin permitted performed =>
      rcases calls with ⟨program, same⟩ | ⟨_, same⟩
      · cases program <;> cases same
        rename_i operation rest
        rcases permitted with ⟨private', apart⟩
        have begins := LockSystem.begins_of_perform performed
        refine ⟨⟨reachable.step performed, mine, ?_, ?_⟩, Task.calls_answered _⟩
        · rw [← found]
          refine begins.get?_of_apart ?_
          intro uses
          exact private' key uses mine
        · exact begins.owed_eq_zero apart
      · cases same
  | goOn self busy performed =>
      rcases calls with ⟨program, same⟩ | ⟨rest, same⟩
      · cases program <;> cases same
      · cases same
        rcases LockSystem.perform_transition performed with ⟨change, transition, stores⟩
        have working := LockSystem.busy_of_perform performed (by rw [self]; exact busy)
        rw [self] at transition stores working
        refine ⟨⟨reachable.step performed, mine, ?_, ?_⟩, Task.calls_answered _⟩
        · have kept := transition.get?_active (LockSystem.accounts_of_reachable reachable) working found active
          rwa [← stores.own] at kept
        · have kept := transition.owed working free
          rwa [← stores.own] at kept
  | load | store | mark | pass | sleep =>
      rcases calls with ⟨program, same⟩ | ⟨_, same⟩
      · cases program <;> cases same
        exact ⟨⟨reachable, mine, found, free⟩, Or.inl ⟨_, rfl⟩⟩
      · cases same

/-- What holds while a section has its handle holds in all states of a callback. -/
theorem runs {holds : LockSystem → Prop} {program : Program Operation Reply β} {config : Config β}
    (retained : Retained thread lock key handle place) (active : handle.isActive = true)
    (held : ∀ {place : Place}, Retained thread lock key handle place → holds place.system)
    (runs : Runs thread lock Anyhow ⟨place, .ready (asCallback program)⟩ actions config) :
    Runs thread lock holds ⟨place, .ready (asCallback program)⟩ actions config ∧
      Retained thread lock key handle config.place := by
  have kept := runs.keep
    (fun config : Config β => Retained thread lock key handle config.place ∧ config.task.Calls)
    ⟨retained, Or.inl ⟨program, rfl⟩⟩ (fun kept step => kept.1.keep kept.2 active step)
    (fun kept => held kept.1)
  exact ⟨kept.1, kept.2.1⟩

end Retained

section Acquiring

/-- Where a section is that asks for a shared hold. -/
inductive Acquiring (thread : ThreadId) (lock : LockId) : Config Reply → Prop where
  | begins {place : Place} (reachable : place.system.Reachable) :
      Acquiring thread lock ⟨place, .ready (LockCalls.operate (.shared lock none))⟩
  | asks {place : Place} {pursuit : LockSystem.Pursuit} (reachable : place.system.Reachable)
      (pursues : (place.system.activity thread).Pursues pursuit)
      (purpose : pursuit.purpose = .acquire) (there : pursuit.lock = lock)
      (request : pursuit.request = .shared) (patient : pursuit.deadline = none) :
      Acquiring thread lock ⟨place, .pending true .finish⟩
  | done {place : Place} {id : HandleId}
      (retained : Retained thread lock id (.shared lock .active false) place) :
      Acquiring thread lock ⟨place, .ready (.finish (.handle id))⟩

/-- A request without a deadline ends only when it is granted or refused. -/
theorem settled_cases {system : LockSystem} {pursuit : LockSystem.Pursuit} {result : Lock × Lock.Outcome}
    (reachable : system.Reachable) (attempt : system.Attempt thread pursuit result)
    (patient : pursuit.deadline = none) :
    result.2.grants = true ∨ result.2 = .parked ∨ ∃ error, result.2 = .refused error := by
  cases outcome : result.2 with
  | granted | reentered => exact Or.inl rfl
  | parked => exact Or.inr (Or.inl rfl)
  | refused error => exact Or.inr (Or.inr ⟨error, rfl⟩)
  | timedOut =>
      exact absurd patient
        ((LockSystem.queues_of_reachable reachable).deadline_ne_none attempt outcome)

theorem Acquiring.keep {config next : Config Reply} (acquiring : Acquiring thread lock config)
    (step : Step thread lock config action next) : Acquiring thread lock next := by
  cases acquiring with
  | begins reachable =>
      cases step with
      | other apart performed => exact .begins (reachable.step performed)
      | begin permitted performed =>
          have made := reachable.step performed
          rcases LockSystem.perform_begin_iff.mp performed with ⟨idle, rfl⟩
          exact .asks made (Or.inl (LockSystem.activity_carryOn _ [])) rfl rfl rfl rfl
  | @asks place pursuit reachable pursues purpose there request patient =>
      cases step with
      | other apart performed =>
          refine .asks (reachable.step performed) ?_ purpose there request patient
          rw [LockSystem.activity, LockSystem.thread_of_others performed apart]
          exact pursues
      | goOn mine busy performed =>
          rcases LockSystem.settles_of_perform pursues performed mine busy with
            ⟨⟨settled, outcome⟩, attempt, rfl⟩
          rcases settled_cases reachable attempt patient with granted | parked | ⟨error, refused⟩
          · have fresh : (place.system.handles thread).get? place.system.nextHandle = none :=
              (LockSystem.accounts_of_reachable reachable thread).books.numbered _ (Nat.le_refl _)
            have made := reachable.step performed
            rw [LockSystem.settle_of_grants granted] at made ⊢
            simp only [LockSystem.succeed, purpose, request, there] at made ⊢
            refine .done ⟨made, List.mem_cons_self, ?_, ?_⟩
            · simp only [Place.after, LockSystem.handles_finish]
              exact LockSystem.get?_addHandle _ fresh
            · simp only [Place.after, LockSystem.activity_finish]
              rfl
          · cases parked
            refine .asks (reachable.step performed) (Or.inr (LockSystem.activity_carryOn _ [])) purpose
              there request patient
          · cases request.symm.trans (attempt.request_of_refused refused)
  | done retained =>
      cases step with
      | other apart performed => exact .done (retained.other apart performed)

/-- A section that has asked for a shared hold has a handle for it. -/
theorem held_of_shared {start : Place} {reply : Reply} (reachable : start.system.Reachable)
    (evaluates : Evaluates thread lock Anyhow start (LockCalls.operate (.shared lock none)) actions reply
      place) :
    ∃ id, reply = .handle id ∧ Retained thread lock id (.shared lock .active false) place := by
  cases Runs.kept (Acquiring thread lock) evaluates (.begins reachable) Acquiring.keep with
  | done retained => exact ⟨_, rfl, retained⟩

end Acquiring

section Upgrading

/-- The numbers of the holds of a thread. -/
def Counts (thread : ThreadId) (lock : LockId) (shares excludes : Nat) (system : LockSystem) : Prop :=
  (system.locks.get lock).book.sharedHolds thread = shares ∧
    (system.locks.get lock).book.exclusiveHolds thread = excludes

/-- A request serves a purpose and has no deadline. -/
structure Serves (pursuit : LockSystem.Pursuit) (purpose : LockSystem.Purpose) (lock : LockId)
    (request : Request) : Prop where
  purpose : pursuit.purpose = purpose
  there : pursuit.lock = lock
  request : pursuit.request = request
  patient : pursuit.deadline = none

/-- Where a section is that upgrades its handle, if the thread had some numbers of holds when it began.
It is refused the exclusive lock only when it asks for it, not when it was parked. -/
inductive Upgrading (thread : ThreadId) (lock : LockId) (shared : HandleId) (shares excludes : Nat) :
    Config Reply → Prop where
  | begins {place : Place} (reachable : place.system.Reachable)
      (found : (place.system.handles thread).get? shared = some (.shared lock .active false))
      (counts : Counts thread lock shares excludes place.system) :
      Upgrading thread lock shared shares excludes
        ⟨place, .ready (LockCalls.operate (.upgrade shared))⟩
  | asks {place : Place} {pursuit : LockSystem.Pursuit} (reachable : place.system.Reachable)
      (asking : place.system.activity thread = .asking pursuit)
      (serves : Serves pursuit (.upgrade shared) lock .exclusive)
      (counts : Counts thread lock (shares - 1) excludes place.system) :
      Upgrading thread lock shared shares excludes ⟨place, .pending true .finish⟩
  | parks {place : Place} {pursuit : LockSystem.Pursuit} (reachable : place.system.Reachable)
      (parked : place.system.activity thread = .parked pursuit)
      (serves : Serves pursuit (.upgrade shared) lock .exclusive)
      (permitted : shares ≤ 1 ∨ 0 < excludes) :
      Upgrading thread lock shared shares excludes ⟨place, .pending true .finish⟩
  | recovers {place : Place} {pursuit : LockSystem.Pursuit} {held : Nat}
      (reachable : place.system.Reachable) (pursues : (place.system.activity thread).Pursues pursuit)
      (serves : Serves pursuit (.recover shared (.upgradeNotPermitted held)) lock .shared)
      (others : shares = held + 1 ∧ 1 ≤ held) (unowned : excludes = 0) :
      Upgrading thread lock shared shares excludes ⟨place, .pending true .finish⟩
  | made {place : Place} {child : HandleId}
      (retained : Retained thread lock child (.exclusive lock true (some shared)) place)
      (permitted : shares ≤ 1 ∨ 0 < excludes) :
      Upgrading thread lock shared shares excludes ⟨place, .ready (.finish (.handle child))⟩
  | refused {place : Place} {held : Nat} (reachable : place.system.Reachable)
      (others : shares = held + 1 ∧ 1 ≤ held) (unowned : excludes = 0) :
      Upgrading thread lock shared shares excludes
        ⟨place, .ready (.finish (.refused (.upgradeNotPermitted held)))⟩

variable {shared : HandleId} {shares excludes : Nat}

theorem Counts.other {now : Instant} {move : LockSystem.Move} {stepped : Stepped}
    {system : LockSystem} (counts : Counts thread lock shares excludes system)
    (reachable : system.Reachable) (apart : move.thread ≠ thread)
    (performed : system.perform now move = some stepped) :
    Counts thread lock shares excludes stepped.state := by
  have same := LockSystem.holds_of_others reachable performed apart lock
  exact ⟨same.1.trans counts.1, same.2.trans counts.2⟩

/-- The first step of an upgrade: the shared hold is given up. -/
theorem Upgrading.of_begin {now : Instant} {stepped : Stepped} (reachable : place.system.Reachable)
    (found : (place.system.handles thread).get? shared = some (.shared lock .active false))
    (counts : Counts thread lock shares excludes place.system)
    (performed : place.system.perform now (.begin thread (.upgrade shared)) = some stepped) :
    Upgrading thread lock shared shares excludes
      ⟨place.after true stepped, .answered true .finish stepped.reply⟩ := by
  have free : (place.system.handles thread).isBorrowed shared = false := by
    have coherent := (LockSystem.accounts_of_reachable reachable thread).coherent
    exact Handles.free_of_childless coherent.keyed (coherent.childless found (by simp))
  have made := reachable.step performed
  obtain rfl := (LockSystem.begins_of_perform performed).unique (.upgrade found free)
  refine .asks made (LockSystem.activity_carryOn _ []) ⟨rfl, rfl, rfl, rfl⟩ ?_
  have gives := Lock.gives_releaseShared
    ((LockSystem.queues_of_reachable reachable).sound lock) thread
  simp only [Counts, Place.after, LockSystem.carryOn, LockSystem.locks_turnTo,
    LockSystem.get_locks_setLock, if_true, gives.sharedHolds, gives.exclusiveHolds]
  exact ⟨congrArg (· - 1) counts.1, counts.2⟩

/-- The request for the exclusive lock, made by a thread that has given its shared hold up, is refused
exactly if the thread has other shared holds and is not the writer. -/
theorem Upgrading.of_ask {now : Instant} {pursuit : LockSystem.Pursuit} {settled : Lock}
    {outcome : Lock.Outcome} (reachable : place.system.Reachable)
    (serves : Serves pursuit (.upgrade shared) lock .exclusive)
    (decided : outcome.grants = true ∨ outcome = .parked → shares ≤ 1 ∨ 0 < excludes)
    (declined : ∀ error, outcome = .refused error →
      excludes = 0 ∧ ∃ held, shares = held + 1 ∧ 1 ≤ held ∧ error = .upgradeNotPermitted held)
    (attempt : place.system.Attempt thread pursuit (settled, outcome))
    (after : (place.system.settle thread pursuit now (settled, outcome)).state.Reachable) :
    Upgrading thread lock shared shares excludes
      ⟨place.after true (place.system.settle thread pursuit now (settled, outcome)),
        .answered true .finish (place.system.settle thread pursuit now (settled, outcome)).reply⟩ := by
  rcases settled_cases reachable attempt serves.patient with granted | parked | ⟨error, refused⟩
  · have fresh : (place.system.handles thread).get? place.system.nextHandle = none :=
      (LockSystem.accounts_of_reachable reachable thread).books.numbered _ (Nat.le_refl _)
    rw [LockSystem.settle_of_grants granted] at after ⊢
    simp only [LockSystem.succeed, serves.purpose, serves.there] at after ⊢
    refine .made ⟨after, List.mem_cons_self, ?_, ?_⟩ (decided (Or.inl granted))
    · simp only [Place.after, LockSystem.handles_finish]
      refine LockSystem.get?_addHandle _ ?_
      have absent : (place.system.threads.get thread).handles.get? place.system.nextHandle = none := fresh
      simp [LockSystem.handles, Handles.get?_modify, absent]
    · simp only [Place.after, LockSystem.activity_finish]
      rfl
  · cases parked
    exact .parks after (LockSystem.activity_carryOn _ []) serves (decided (Or.inr rfl))
  · cases refused
    rcases declined error rfl with ⟨unowned, held, others, some, rfl⟩
    simp only [LockSystem.settle, LockSystem.refuse, serves.purpose] at after ⊢
    exact .recovers after (Or.inl (LockSystem.activity_carryOn _ [])) ⟨rfl, serves.there, rfl, rfl⟩
      ⟨others, some⟩ unowned

/-- What the lock says to a thread that asks for it with an upgrade. -/
theorem refusal_of_ask {pursuit : LockSystem.Pursuit} {settled : Lock} {outcome : Lock.Outcome}
    (reachable : place.system.Reachable)
    (asking : place.system.activity thread = .asking pursuit)
    (serves : Serves pursuit (.upgrade shared) lock .exclusive)
    (counts : Counts thread lock (shares - 1) excludes place.system)
    (attempt : place.system.Attempt thread pursuit (settled, outcome)) (error : LockError) :
    outcome = .refused error ↔
      excludes = 0 ∧ 0 < shares - 1 ∧ error = .upgradeNotPermitted (shares - 1) := by
  have asked : (settled, outcome)
      = (place.system.locks.get pursuit.lock).ask thread pursuit.request pursuit.deadline := by
    generalize (settled, outcome) = result at attempt
    cases attempt with
    | ask => rfl
    | wake parked | expire parked => cases asking.symm.trans parked
  have sound := ((LockSystem.queues_of_reachable reachable).sound lock).book
  have owner := Book.exclusiveHolds_pos_iff sound thread
  rw [counts.2] at owner
  rw [show outcome = _ from congrArg Prod.snd asked, Lock.ask_eq_refused_iff, serves.request, serves.there,
    counts.1, ne_eq, ← owner, Nat.pos_iff_ne_zero, not_not]
  exact ⟨fun refused => refused.2, fun declined => ⟨rfl, declined⟩⟩

theorem Upgrading.keep {config next : Config Reply}
    (upgrading : Upgrading thread lock shared shares excludes config)
    (step : Step thread lock config action next) : Upgrading thread lock shared shares excludes next := by
  cases upgrading with
  | begins reachable found counts =>
      cases step with
      | other apart performed =>
          refine .begins (reachable.step performed) ?_ (counts.other reachable apart performed)
          rw [LockSystem.handles, LockSystem.thread_of_others performed apart]
          exact found
      | begin permitted performed => exact .of_begin reachable found counts performed
  | @asks place pursuit reachable asking serves counts =>
      cases step with
      | other apart performed =>
          refine .asks (reachable.step performed) ?_ serves (counts.other reachable apart performed)
          rw [LockSystem.activity, LockSystem.thread_of_others performed apart]
          exact asking
      | goOn mine busy performed =>
          rcases LockSystem.settles_of_perform (Or.inl asking) performed mine busy with
            ⟨⟨settled, outcome⟩, attempt, rfl⟩
          -- The lock answers to what the thread holds now, which is what it had but for one shared hold.
          have refusal := refusal_of_ask reachable asking serves counts attempt
          refine .of_ask reachable serves ?_ ?_ attempt (reachable.step performed)
          · intro decided
            by_contra others
            have refused := (refusal _).mpr ⟨by omega, by omega, rfl⟩
            rcases decided with granted | parked
            · cases refused ▸ granted
            · cases refused.symm.trans parked
          · rintro error rfl
            rcases (refusal error).mp rfl with ⟨unowned, some, same⟩
            exact ⟨unowned, shares - 1, by omega, by omega, same⟩
  | @parks place pursuit reachable parked serves permitted =>
      cases step with
      | other apart performed =>
          refine .parks (reachable.step performed) ?_ serves permitted
          rw [LockSystem.activity, LockSystem.thread_of_others performed apart]
          exact parked
      | goOn mine busy performed =>
          rcases LockSystem.settles_of_perform (Or.inr parked) performed mine busy with
            ⟨⟨settled, outcome⟩, attempt, rfl⟩
          refine .of_ask reachable serves (fun _ => permitted) ?_ attempt (reachable.step performed)
          -- A thread that was parked is not refused any more.
          rintro error rfl
          cases (attempt.asks_of_refused rfl).symm.trans parked
  | @recovers place pursuit held reachable pursues serves others unowned =>
      cases step with
      | other apart performed =>
          refine .recovers (reachable.step performed) ?_ serves others unowned
          rw [LockSystem.activity, LockSystem.thread_of_others performed apart]
          exact pursues
      | goOn mine busy performed =>
          rcases LockSystem.settles_of_perform pursues performed mine busy with
            ⟨⟨settled, outcome⟩, attempt, rfl⟩
          rcases settled_cases reachable attempt serves.patient with granted | parked | ⟨error, refused⟩
          · have made := reachable.step performed
            rw [LockSystem.settle_of_grants granted] at made ⊢
            simp only [LockSystem.succeed, serves.purpose] at made ⊢
            exact .refused made others unowned
          · cases parked
            exact .recovers (reachable.step performed) (Or.inr (LockSystem.activity_carryOn _ []))
              serves others unowned
          · cases serves.request.symm.trans (attempt.request_of_refused refused)
  | made retained permitted =>
      cases step with
      | other apart performed => exact .made (retained.other apart performed) permitted
  | refused reachable others unowned =>
      cases step with
      | other apart performed => exact .refused (reachable.step performed) others unowned

/-- Whether the lock is refused to a thread that upgrades a handle, because the thread has other shared
holds and not the exclusive lock. -/
def Refusable (thread : ThreadId) (lock : LockId) (others : Nat) (system : LockSystem) : Prop :=
  (system.locks.get lock).book.sharedHolds thread = others + 1 ∧ 1 ≤ others ∧
    (system.locks.get lock).book.exclusiveHolds thread = 0

/-- A section that has upgraded its handle has a child of it that has its hold, or the exclusive lock is
refused to it, which is so exactly if the thread had other shared holds when it began. -/
theorem held_of_upgrade {start : Place} {reply : Reply}
    (retained : Retained thread lock shared (.shared lock .active false) start)
    (evaluates : Evaluates thread lock Anyhow start (LockCalls.operate (.upgrade shared)) actions reply
      place) :
    (∃ child, reply = .handle child ∧
        Retained thread lock child (.exclusive lock true (some shared)) place ∧
        ∀ others, ¬Refusable thread lock others start.system) ∨
      ∃ others, reply = .refused (.upgradeNotPermitted others) ∧
        Refusable thread lock others start.system := by
  have upgrading := Runs.kept (Upgrading thread lock shared _ _) evaluates
    (.begins retained.reachable retained.found ⟨rfl, rfl⟩) Upgrading.keep
  cases upgrading with
  | made kept permitted =>
      refine Or.inl ⟨_, rfl, kept, ?_⟩
      rintro others ⟨shares, some, unowned⟩
      omega
  | refused _ others unowned => exact Or.inr ⟨_, rfl, others.1, others.2, unowned⟩

end Upgrading

end Section

end Coordination
