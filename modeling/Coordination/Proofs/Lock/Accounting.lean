import Coordination.Proofs.Lock.Accounts

/-!
# What handles promise

Between its operations, a thread has exactly the holds that its handles stand for, so no release
or wait finds the lock without the hold that it gives up, and a lock without active handles is as
it was at first. A handle is upgraded once at most: after an upgrade it has no right to another
(`Used`), and no step gives the right back.
-/

namespace Coordination

namespace Handle

/-- Whether a handle has the right to an upgrade. -/
def isFresh : Handle → Bool
  | .shared _ _ upgraded => !upgraded
  | .exclusive _ _ _ => false

theorem isFresh_afterRelease (handle : Handle) : handle.afterRelease.isFresh = handle.isFresh := by
  cases handle <;> rfl

theorem isFresh_withState (handle : Handle) (state : HandleState) :
    (handle.withState state).isFresh = handle.isFresh := by
  cases handle <;> rfl

theorem isFresh_afterUpgrade (handle : Handle) : handle.afterUpgrade.isFresh = false := by
  cases handle <;> rfl

end Handle

namespace Handles

variable {handles : Handles} {id key : HandleId}

/-- There is no handle of a number that has the right to an upgrade. -/
def Used (handles : Handles) (id : HandleId) : Prop :=
  ∀ handle, handles.get? id = some handle → handle.isFresh = false

theorem Used.modify (used : handles.Used id) {change : Handle → Handle}
    (kept : ∀ handle, handle.isFresh = false → (change handle).isFresh = false) :
    (handles.modify key change).Used id := by
  intro handle found
  rw [get?_modify] at found
  split at found
  · rcases Option.map_eq_some_iff.mp found with ⟨old, oldFound, rfl⟩
    exact kept old (used old oldFound)
  · exact used handle found

theorem Used.add (used : handles.Used id) {new : Handle} (absent : handles.get? key = none)
    (apart : id ≠ key) : (handles.add key new).Used id := by
  intro handle found
  rcases (get?_add_eq_some_iff absent).mp found with ⟨same, _⟩ | ⟨_, found⟩
  · exact absurd same apart
  · exact used handle found

theorem Used.erase (used : handles.Used id) : (handles.erase key).Used id :=
  fun handle found => used handle (get?_erase_eq_some_iff.mp found).2

theorem Used.release (used : handles.Used id) : (handles.modify key Handle.afterRelease).Used id :=
  used.modify fun handle old => handle.isFresh_afterRelease.trans old

theorem Used.withState (used : handles.Used id) (state : HandleState) :
    (handles.modify key (·.withState state)).Used id :=
  used.modify fun handle old => (handle.isFresh_withState state).trans old

theorem Used.upgrade (used : handles.Used id) : (handles.modify key Handle.afterUpgrade).Used id :=
  used.modify fun handle _ => handle.isFresh_afterUpgrade

theorem used_afterUpgrade (handles : Handles) (id : HandleId) :
    (handles.modify id Handle.afterUpgrade).Used id := by
  intro handle found
  rw [get?_modify, if_pos rfl] at found
  rcases Option.map_eq_some_iff.mp found with ⟨old, _, rfl⟩
  exact old.isFresh_afterUpgrade

end Handles

namespace LockSystem

/-- Whether a step ends an upgrade of a handle of a thread with success. -/
def Event.upgrades (event : Event) (thread : ThreadId) (id : HandleId) : Bool :=
  event.thread = thread &&
    match event.before, event.reply with
    | .asking pursuit, some (.handle _) | .parked pursuit, some (.handle _) =>
        pursuit.purpose = .upgrade id
    | _, _ => false

theorem Event.of_upgrades {event : Event} {thread : ThreadId} {id : HandleId}
    (upgrades : event.upgrades thread id = true) :
    event.thread = thread ∧
      (∃ pursuit, event.before.Pursues pursuit ∧ pursuit.purpose = .upgrade id) ∧
      ∃ new, event.reply = some (.handle new) := by
  simp only [Event.upgrades, Bool.and_eq_true, decide_eq_true_eq] at upgrades
  rcases upgrades with ⟨same, upgrades⟩
  split at upgrades
  · rename_i pursuit new before reply
    exact ⟨same, ⟨pursuit, Or.inl before, by simpa using upgrades⟩, new, reply⟩
  · rename_i pursuit new before reply
    exact ⟨same, ⟨pursuit, Or.inr before, by simpa using upgrades⟩, new, reply⟩
  · cases upgrades

theorem Activity.Pursues.unique {activity : Activity} {first second : Pursuit}
    (one : activity.Pursues first) (other : activity.Pursues second) : first = second := by
  rcases one with rfl | rfl <;> rcases other with same | same <;> cases same <;> rfl

variable {system : LockSystem} {thread : ThreadId} {change : Change} {id : HandleId}

/-- No step gives the right to an upgrade back. -/
theorem Transition.used (transition : Transition system thread change)
    (absent : (system.handles thread).get? system.nextHandle = none)
    (apart : id ≠ system.nextHandle)
    (used : (system.handles thread).Used id) : change.thread.handles.Used id := by
  have released (key : HandleId) (drop : Bool) :
      (afterRelease (system.handles thread) key drop).Used id := by
    cases drop with
    | false => exact used.release
    | true => exact used.release.erase
  cases transition with
  | turn | stay | wait | leave | park | timeOut | refuse | refuseUpgrade | resume => exact used
  | discard => exact used.erase
  | releaseShared drop | releaseExclusive drop | releaseChild drop => exact released _ _
  | upgrade => exact used.withState .suspended
  | acquire => exact used.add absent apart
  | makeChild =>
      refine used.upgrade.add ?_ apart
      rw [Handles.get?_modify, absent, Option.map_none, ite_self]
  | recover => exact used.withState .active
  | @restore pursuit lock outcome child parent drop =>
      cases drop with
      | false => exact used.withState .active
      | true => exact (used.withState .active).erase

/-- An upgrade uses the right up. The step that ends it with success is the one that makes the
child. -/
theorem Transition.used_of_upgrades (transition : Transition system thread change)
    (absent : (system.handles thread).get? system.nextHandle = none)
    (apart : id ≠ system.nextHandle)
    (upgrades : Event.upgrades ⟨thread, system.activity thread, change.reply⟩ thread id = true) :
    change.thread.handles.Used id := by
  rcases Event.of_upgrades upgrades with ⟨_, ⟨pursuit, pursues, purpose⟩, new, reply⟩
  cases transition with
  | turn after reply before plain =>
      have acquires := before.acquires pursues
      rw [purpose] at acquires
      cases acquires.1
  | acquire attempt granted other =>
      obtain rfl := pursues.unique attempt.activity
      rw [purpose] at other
      cases other
  | makeChild attempt granted same =>
      obtain rfl := pursues.unique attempt.activity
      rw [purpose] at same
      cases same
      refine (Handles.used_afterUpgrade _ id).add ?_ apart
      rw [Handles.get?_modify, absent, Option.map_none, ite_self]
  | stay | discard | releaseShared | releaseExclusive | releaseChild | upgrade | wait | leave | park
  | timeOut | refuse | refuseUpgrade | recover | restore | resume => cases reply

/-- The handle of an upgrade under way has the right to it. -/
theorem Accounts.not_used_of_upgrades (accounts : system.Accounts) {reply : Option Reply}
    (upgrades : Event.upgrades ⟨thread, system.activity thread, reply⟩ thread id = true) :
    ∃ handle, (system.handles thread).get? id = some handle ∧ handle.isFresh = true := by
  rcases Event.of_upgrades upgrades with ⟨_, ⟨pursuit, pursues, purpose⟩, _⟩
  have suits := (accounts thread).suits pursuit pursues
  simp only [Pursuit.Suits, purpose] at suits
  exact ⟨_, suits.2.2, rfl⟩

/-- No handle is upgraded before there is one, and a handle that was upgraded has no right to
another upgrade. -/
theorem Run.upgrades {events : List Event} (run : Run events system) (thread : ThreadId)
    (id : HandleId) :
    events.countP (·.upgrades thread id) = 0 ∨
      events.countP (·.upgrades thread id) = 1 ∧ id < system.nextHandle ∧
        (system.handles thread).Used id := by
  induction run with
  | fresh fresh => exact Or.inl rfl
  | @step events system now move stepped run performed ih =>
      have accounts := accounts_of_reachable ⟨events, run⟩
      rcases perform_transition performed with ⟨change, transition, stores⟩
      have le := Accounts.nextHandle_le transition
      rw [stores.reply, stores.nextHandle, List.countP_cons]
      by_cases same : move.thread = thread
      · subst same
        have books := (accounts move.thread).books
        have absent : (system.handles move.thread).get? system.nextHandle = none :=
          books.numbered system.nextHandle (Nat.le_refl _)
        have own : stepped.state.handles move.thread = change.thread.handles := by
          rw [handles, stores.own]
        rw [own]
        cases upgrades : Event.upgrades ⟨move.thread, system.activity move.thread, change.reply⟩
          move.thread id with
        | false =>
            rcases ih with none | ⟨once, old, used⟩
            · exact Or.inl (by simp [none])
            · exact Or.inr ⟨by simp [once], Nat.lt_of_lt_of_le old le,
                transition.used absent (Nat.ne_of_lt old) used⟩
        | true =>
            rcases accounts.not_used_of_upgrades upgrades with ⟨handle, found, isFresh⟩
            have old := books.lt_bound found
            rcases ih with none | ⟨_, _, used⟩
            · exact Or.inr ⟨by simp [none], Nat.lt_of_lt_of_le old le,
                transition.used_of_upgrades absent (Nat.ne_of_lt old) upgrades⟩
            · have := used handle found
              rw [isFresh] at this
              cases this
      · have other : Event.upgrades ⟨move.thread, system.activity move.thread, change.reply⟩
            thread id = false := by
          simp [Event.upgrades, same]
        have kept : stepped.state.handles thread = system.handles thread := by
          rw [handles, stores.others thread same, handles]
        rw [other, kept]
        rcases ih with none | ⟨once, old, used⟩
        · exact Or.inl (by simp [none])
        · exact Or.inr ⟨by simp [once], Nat.lt_of_lt_of_le old le, used⟩

theorem Accounts.holds_of_idle (accounts : system.Accounts) (idle : system.activity thread = .idle)
    (lock : LockId) :
    (system.locks.get lock).book.sharedHolds thread = (system.handles thread).sharedHolds lock ∧
      (system.locks.get lock).book.exclusiveHolds thread
        = (system.handles thread).exclusiveHolds lock := by
  have books := (accounts.of_idle idle).books_of_idle
  rw [Handles.sharedHolds_eq_tally, Handles.exclusiveHolds_eq_tally]
  exact ⟨books.shared lock, books.exclusive lock⟩

/-- A handle of an idle thread is suspended exactly while it has a child that is held. -/
theorem Accounts.suspended_iff (accounts : system.Accounts) (idle : system.activity thread = .idle)
    {place : LockId} {state : HandleState} {upgraded : Bool}
    (found : (system.handles thread).get? id = some (.shared place state upgraded)) :
    state = .suspended ↔
      ∃ child, (system.handles thread).get? child = some (.exclusive place true (some id)) := by
  have coherent : (system.handles thread).Coherent none := (accounts.of_idle idle).coherent
  have parent {child : HandleId} {childPlace : LockId}
      (childFound : (system.handles thread).get? child
        = some (.exclusive childPlace true (some id))) :
      childPlace = place ∧ state = .suspended := by
    rcases coherent.parented childFound with ⟨parentState, parentFound, suspended⟩
    rw [found] at parentFound
    cases parentFound
    exact ⟨rfl, suspended rfl⟩
  constructor
  · rintro rfl
    rcases coherent.suspended found with turned | ⟨child, childPlace, childFound⟩
    · cases turned
    · rcases parent childFound with ⟨rfl, _⟩
      exact ⟨child, childFound⟩
  · rintro ⟨child, childFound⟩
    exact (parent childFound).2

/-- The releases and waits of an idle thread find the holds that they give up. -/
theorem Accounts.listed_of_active (accounts : system.Accounts) (queues : system.Queues)
    (idle : system.activity thread = .idle) {place : LockId} {upgraded : Bool}
    (found : (system.handles thread).get? id = some (.shared place .active upgraded)) :
    (system.locks.get place).book.readers.lists thread = true := by
  have books := (accounts.of_idle idle).books_of_idle
  exact (Holds.lists_iff (queues.sound place).book.proper thread).mpr
    (books.shares_pos found place (by simp [Handle.sharesOn]))

theorem Accounts.writer_of_held (accounts : system.Accounts) (queues : system.Queues)
    (idle : system.activity thread = .idle) {place : LockId} {parent : Option HandleId}
    (found : (system.handles thread).get? id = some (.exclusive place true parent)) :
    (system.locks.get place).book.writer = some thread := by
  have books := (accounts.of_idle idle).books_of_idle
  exact (Book.exclusiveHolds_pos_iff (queues.sound place).book thread).mp
    (books.excludes_pos found place (by simp [Handle.excludesOn]))

/-- A lock without active handles is as it was at first, unless a thread is in the middle of an
operation. -/
theorem Accounts.initial_of_inactive (accounts : system.Accounts) (queues : system.Queues)
    (idle : ∀ thread, system.activity thread = .idle) {place : LockId}
    (inactive : ∀ thread id handle, (system.handles thread).get? id = some handle →
      handle.lock = place → handle.isActive = false) :
    (system.locks.get place).book = {} ∧ (system.locks.get place).waiters = [] := by
  have sound := queues.sound place
  have holdless (thread : ThreadId) : (system.locks.get place).book.Holdless thread := by
    have account := accounts.of_idle (idle thread)
    have keyed : (system.handles thread).Keyed := account.coherent.keyed
    constructor
    · rw [account.books_of_idle.shared place]
      apply Handles.tally_eq_zero keyed
      intro id handle found
      by_contra holds
      rcases Handle.of_sharesOn (by simpa using holds) with ⟨here, active⟩
      simp [inactive thread id handle found here] at active
    · rw [account.books_of_idle.exclusive place]
      apply Handles.tally_eq_zero keyed
      intro id handle found
      by_contra holds
      rcases Handle.of_excludesOn (by simpa using holds) with ⟨here, active⟩
      simp [inactive thread id handle found here] at active
  have unseated : (system.locks.get place).seats = [] := by
    rw [List.eq_nil_iff_forall_not_mem]
    intro seat mem
    rcases (queues.seated place seat).mp mem with ⟨pursuit, parked, _⟩
    rw [idle] at parked
    cases parked
  refine ⟨Book.eq_empty_of_holdless sound.book holdless ?_, List.map_eq_nil_iff.mp unseated⟩
  rw [sound.queued, unseated]
  rfl

theorem Accounts.wait_reply_ne (accounts : system.Accounts) (queues : system.Queues)
    (idle : system.activity thread = .idle) (now : Instant) (id : HandleId) (name : String)
    (timeout : Option Duration) :
    (system.begin now thread (.wait id name timeout)).reply
      ≠ some (.refused (.illegalUpgradeState "condition wait requires the exclusive lock")) := by
  simp only [begin, withHandle]
  cases found : (system.handles thread).get? id with
  | none => simp [finish]
  | some handle =>
      by_cases borrowed : (system.handles thread).isBorrowed id = true
      · simp [borrowed, finish]
      · cases handle with
        | shared place state upgraded => simp [borrowed, wait, finish]
        | exclusive place held parent =>
            cases held with
            | false => simp [borrowed, wait, finish]
            | true =>
                have writer := accounts.writer_of_held queues idle found
                cases fits : timeout.all (·.fits now) with
                | false => simp [borrowed, wait, inTime, fits, finish]
                | true =>
                    by_cases reads : 0 < (system.locks.get place).book.sharedHolds thread
                    · simp [borrowed, wait, inTime, fits, Lock.suspend, reads, finish]
                    · simp [borrowed, wait, inTime, fits, Lock.suspend, reads, writer, carryOn]

/-- Whatever the schedule, between its operations a thread has the holds that its handles stand
for, a handle of it is suspended exactly while it has a child that is held, and what it releases
it has; so there is no release without a hold, and no wait is refused for want of the exclusive
lock. A handle is upgraded once at most. What is counted down is never 0: the exclusive holds of a
writer, the shared holds of a listed reader and the queue of which a waiting writer is a part.
When no thread is in the middle of an operation or has an active handle on a lock, the lock has no
holds, no queue and nobody parked. -/
theorem accounting_of_run {events : List Event} (run : Run events system) :
    (∀ thread, system.activity thread = .idle →
      let handles := system.handles thread
      (∀ lock, (system.locks.get lock).book.sharedHolds thread = handles.sharedHolds lock ∧
        (system.locks.get lock).book.exclusiveHolds thread = handles.exclusiveHolds lock) ∧
      (∀ id place state upgraded, handles.get? id = some (.shared place state upgraded) →
        (state = .suspended ↔
          ∃ child, handles.get? child = some (.exclusive place true (some id)))) ∧
      (∀ id place upgraded, handles.get? id = some (.shared place .active upgraded) →
        (system.locks.get place).book.readers.lists thread = true) ∧
      (∀ id place parent, handles.get? id = some (.exclusive place true parent) →
        (system.locks.get place).book.writer = some thread) ∧
      (∀ now id name timeout, (system.begin now thread (.wait id name timeout)).reply
        ≠ some (.refused (.illegalUpgradeState "condition wait requires the exclusive lock")))) ∧
    (∀ thread id, events.countP (·.upgrades thread id) ≤ 1) ∧
    (∀ place, let book := (system.locks.get place).book
      (book.writer.isSome = true → 0 < book.writeHolds) ∧
      (∀ thread, book.readers.lists thread = true → 0 < book.sharedHolds thread) ∧
      (∀ thread pursuit, system.activity thread = .parked pursuit → pursuit.lock = place →
        pursuit.request.writes = true → 0 < book.waitingWriters)) ∧
    ((∀ thread, system.activity thread = .idle) → ∀ place,
      (∀ thread id handle, (system.handles thread).get? id = some handle → handle.lock = place →
        handle.isActive = false) →
      (system.locks.get place).book = {} ∧ (system.locks.get place).waiters = []) := by
  have queues := queues_of_reachable ⟨events, run⟩
  have accounts := accounts_of_reachable ⟨events, run⟩
  refine ⟨?_, ?_, ?_, ?_⟩
  · intro thread idle
    exact ⟨accounts.holds_of_idle idle, fun _ _ _ _ => accounts.suspended_iff idle,
      fun _ _ _ => accounts.listed_of_active queues idle,
      fun _ _ _ => accounts.writer_of_held queues idle, accounts.wait_reply_ne queues idle⟩
  · intro thread id
    rcases run.upgrades thread id with none | ⟨once, _⟩ <;> omega
  · intro place
    have sound := queues.sound place
    refine ⟨sound.book.writing.mpr, fun thread => (Holds.lists_iff sound.book.proper thread).mp, ?_⟩
    rintro thread pursuit parked rfl writes
    rw [sound.queued, Nat.add_zero, List.countP_pos_iff]
    exact ⟨_, queues.seat_mem parked, writes⟩
  · exact fun idle place inactive => accounts.initial_of_inactive queues idle inactive

/-- The moves of a thread that takes a shared hold and upgrades it. -/
def upgrading : List (Instant × Move) :=
  [(0, .begin 0 (.shared 0 none)), (0, .proceed 0), (1, .begin 0 (.upgrade 0)), (1, .proceed 0)]

theorem accounting_of_upgrading :
    let system := follow {} upgrading
    let events := history [] {} upgrading
    Run events system ∧ system.activity 0 = .idle ∧
      (system.handles 0).get? 0 = some (.shared 0 .suspended true) ∧
      (∃ child, (system.handles 0).get? child = some (.exclusive 0 true (some 0))) ∧
      (system.locks.get 0).book.sharedHolds 0 = 0 ∧ (system.locks.get 0).book.exclusiveHolds 0 = 1 ∧
      0 < events.countP (·.upgrades 0 0) ∧ events.countP (·.upgrades 0 0) ≤ 1 := by
  have run : Run (history [] {} upgrading) (follow {} upgrading) := run_empty.follow upgrading
  have holds := accounting_of_run run
  have idle : (follow {} upgrading).activity 0 = .idle := by decide
  have found : ((follow {} upgrading).handles 0).get? 0 = some (.shared 0 .suspended true) := by
    decide
  rcases holds.1 0 idle with ⟨numbers, suspended, _⟩
  refine ⟨run, idle, found, (suspended 0 0 _ _ found).mp rfl, ?_, ?_, by decide, holds.2.1 0 0⟩
  · exact (numbers 0).1.trans (by decide)
  · exact (numbers 0).2.trans (by decide)

end LockSystem

end Coordination
