import Coordination.Proofs.Lock.Handles
import Coordination.Proofs.Lock.Queues

/-!
# Handles account for the holds

The holds of a thread are those that its handles stand for (`Account`), apart from the exclusive
holds that a wait has given up, and apart from the handle that the thread is turning in the middle
of an upgrade or of the release of a child.

A step tells on the account of the thread that takes it, and of no other. `Books` is the part of
an account that counts, and has one lemma for each change of the handles. `Accounts.step` puts the
lemmas together for the steps of a thread.
-/

namespace Coordination.LockSystem

/-- The handle whose shared hold was given up for a request, or is wanted back by it. -/
def Purpose.turning? : Purpose → Option HandleId
  | .upgrade parent | .recover parent _ | .restore _ parent _ => some parent
  | .acquire | .resume _ => none

/-- The handle that a thread turns in the middle of an operation. -/
def Activity.turning? : Activity → Option HandleId
  | .asking pursuit | .parked pursuit => pursuit.purpose.turning?
  | _ => none

/-- The number of the exclusive holds on a lock that a thread wants back. -/
def Activity.owed (activity : Activity) (id : LockId) : Nat :=
  match activity.owes with
  | some (place, holds) => if place = id then holds else 0
  | none => 0

theorem Activity.Pursues.turning? {activity : Activity} {pursuit : Pursuit}
    (pursues : activity.Pursues pursuit) : activity.turning? = pursuit.purpose.turning? := by
  rcases pursues with rfl | rfl <;> rfl

theorem Activity.Pursues.owed_parked {activity : Activity} {pursuit : Pursuit}
    (pursues : activity.Pursues pursuit) (id : LockId) :
    (Activity.parked pursuit).owed id = activity.owed id := by
  rcases pursues with rfl | rfl <;> rfl

theorem Activity.Pursues.owed_eq_zero {activity : Activity} {pursuit : Pursuit}
    (pursues : activity.Pursues pursuit) (fresh : ∀ holds, pursuit.request ≠ .resume holds)
    (id : LockId) : activity.owed id = 0 := by
  have nothing : activity.owes = none := by
    rcases pursues with rfl | rfl <;> cases request : pursuit.request <;>
      simp_all [Activity.owes]
  simp [Activity.owed, nothing]

theorem Activity.Pursues.owed_of_resume {activity : Activity} {pursuit : Pursuit}
    (pursues : activity.Pursues pursuit) {holds : Nat} (request : pursuit.request = .resume holds)
    (id : LockId) : activity.owed id = if pursuit.lock = id then holds else 0 := by
  rcases pursues with rfl | rfl <;> simp [Activity.owed, Activity.owes, request]

/-- What a thread is after fits its handles. -/
def Pursuit.Suits (pursuit : Pursuit) (handles : Handles) : Prop :=
  match pursuit.purpose with
  | .acquire => pursuit.request = .shared ∨ pursuit.request = .exclusive
  | .upgrade parent =>
      pursuit.request = .exclusive ∧ pursuit.deadline = none ∧
        handles.get? parent = some (.shared pursuit.lock .suspended false)
  | .recover parent _ =>
      pursuit.request = .shared ∧ pursuit.deadline = none ∧
        handles.get? parent = some (.shared pursuit.lock .suspended false)
  | .restore child parent _ =>
      pursuit.request = .shared ∧ pursuit.deadline = none ∧
        handles.get? child = some (.exclusive pursuit.lock false (some parent)) ∧
        handles.get? parent = some (.shared pursuit.lock .suspended true)
  | .resume _ => (∃ holds, pursuit.request = .resume holds) ∧ pursuit.deadline = none

/-- The holds of a thread before and after its request has been granted. -/
structure Pursuit.Gains (pursuit : Pursuit) (shares excludes shares' excludes' : LockId → Nat) :
    Prop where
  shared : ∀ lock, shares' lock
    = shares lock + if pursuit.lock = lock then pursuit.request.shares else 0
  exclusive : ∀ lock, excludes' lock
    = excludes lock + if pursuit.lock = lock then pursuit.request.excludes else 0

/-- The numbers of some handles are below a bound, and the holds of a thread are those that the
handles stand for. -/
structure Books (handles : Handles) (bound : HandleId) (shares excludes : LockId → Nat) : Prop where
  numbered : ∀ id, bound ≤ id → handles.get? id = none
  shared : ∀ lock, shares lock = handles.tally (Handle.sharesOn lock)
  exclusive : ∀ lock, excludes lock = handles.tally (Handle.excludesOn lock)

/-- The state of a thread fits its holds. -/
structure Account (state : Thread) (bound : HandleId) (shares excludes : LockId → Nat) : Prop where
  coherent : state.handles.Coherent state.activity.turning?
  suits : ∀ pursuit, state.activity.Pursues pursuit → pursuit.Suits state.handles
  books : Books state.handles bound shares fun lock => excludes lock + state.activity.owed lock

/-- The state of every thread fits its holds. -/
def Accounts (system : LockSystem) : Prop :=
  ∀ thread, Account (system.threads.get thread) system.nextHandle
    (fun lock => (system.locks.get lock).book.sharedHolds thread)
    (fun lock => (system.locks.get lock).book.exclusiveHolds thread)

namespace Books

variable {handles : Handles} {bound id : HandleId} {handle : Handle}
  {shares excludes shares' excludes' : LockId → Nat}

theorem empty {bound : HandleId} (shared : ∀ lock, shares lock = 0)
    (exclusive : ∀ lock, excludes lock = 0) : Books {} bound shares excludes where
  numbered _ _ := rfl
  shared lock := by simp [shared, Handles.tally]
  exclusive lock := by simp [exclusive, Handles.tally]

theorem congr (books : Books handles bound shares excludes)
    (shared : ∀ lock, shares' lock = shares lock)
    (exclusive : ∀ lock, excludes' lock = excludes lock) :
    Books handles bound shares' excludes' where
  numbered := books.numbered
  shared lock := (shared lock).trans (books.shared lock)
  exclusive lock := (exclusive lock).trans (books.exclusive lock)

theorem raise (books : Books handles bound shares excludes) {next : HandleId} (le : bound ≤ next) :
    Books handles next shares excludes where
  numbered id above := books.numbered id (Nat.le_trans le above)
  shared := books.shared
  exclusive := books.exclusive

theorem lt_bound (books : Books handles bound shares excludes)
    (found : handles.get? id = some handle) : id < bound := by
  by_contra above
  rw [books.numbered id (Nat.le_of_not_lt above)] at found
  cases found

/-- A handle that stands for a shared hold has one. -/
theorem shares_pos (books : Books handles bound shares excludes)
    (found : handles.get? id = some handle) (lock : LockId) (holds : handle.sharesOn lock = true) :
    0 < shares lock := by
  rw [books.shared, Handles.tally, List.countP_pos_iff]
  exact ⟨_, Handles.mem_of_get? found, holds⟩

theorem excludes_pos (books : Books handles bound shares excludes)
    (found : handles.get? id = some handle) (lock : LockId)
    (holds : handle.excludesOn lock = true) :
    0 < excludes lock := by
  rw [books.exclusive, Handles.tally, List.countP_pos_iff]
  exact ⟨_, Handles.mem_of_get? found, holds⟩

theorem modify (books : Books handles bound shares excludes) (keyed : handles.Keyed)
    (found : handles.get? id = some handle) (change : Handle → Handle)
    (shared : ∀ lock, shares' lock + (if handle.sharesOn lock then 1 else 0)
      = shares lock + if (change handle).sharesOn lock then 1 else 0)
    (exclusive : ∀ lock, excludes' lock + (if handle.excludesOn lock then 1 else 0)
      = excludes lock + if (change handle).excludesOn lock then 1 else 0) :
    Books (handles.modify id change) bound shares' excludes' where
  numbered key above := by
    rw [Handles.get?_modify, books.numbered key above]
    split <;> rfl
  shared lock := by
    have before := books.shared lock
    have after := Handles.tally_modify keyed found (Handle.sharesOn lock) change
    have same := shared lock
    omega
  exclusive lock := by
    have before := books.exclusive lock
    have after := Handles.tally_modify keyed found (Handle.excludesOn lock) change
    have same := exclusive lock
    omega

theorem add (books : Books handles bound shares excludes)
    (shared : ∀ lock, shares' lock = shares lock + if handle.sharesOn lock then 1 else 0)
    (exclusive : ∀ lock, excludes' lock = excludes lock + if handle.excludesOn lock then 1 else 0) :
    Books (handles.add bound handle) (bound + 1) shares' excludes' where
  numbered key above := by
    rw [Handles.get?_add (books.numbered bound (Nat.le_refl bound)), if_neg (Nat.ne_of_lt above)]
    exact books.numbered key (Nat.le_of_lt above)
  shared lock := by rw [shared, books.shared, Handles.tally_add]
  exclusive lock := by rw [exclusive, books.exclusive, Handles.tally_add]

/-- To do away with a handle that has no hold changes no number. -/
theorem erase (books : Books handles bound shares excludes) (keyed : handles.Keyed)
    (found : handles.get? id = some handle) (inactive : handle.isActive = false) :
    Books (handles.erase id) bound shares excludes where
  numbered key above := by
    rw [Handles.get?_erase, books.numbered key above, ite_self]
  shared lock := by
    rw [books.shared, ← Handles.tally_erase keyed found, Handle.sharesOn_of_inactive inactive]
    simp
  exclusive lock := by
    rw [books.exclusive, ← Handles.tally_erase keyed found, Handle.excludesOn_of_inactive inactive]
    simp

end Books

namespace Account

variable {state : Thread} {handles : Handles} {bound id : HandleId} {handle : Handle}
  {shares excludes shares' excludes' : LockId → Nat}

/-- A thread turns to something else and keeps its handles. -/
theorem turn (account : Account state bound shares excludes) {after : Activity}
    (turning : after.turning? = state.activity.turning?)
    (suits : ∀ pursuit, after.Pursues pursuit → pursuit.Suits state.handles)
    (shared : ∀ lock, shares' lock = shares lock)
    (exclusive : ∀ lock, excludes' lock + after.owed lock
      = excludes lock + state.activity.owed lock) :
    Account ⟨state.handles, after⟩ bound shares' excludes' where
  coherent := by
    rw [turning]
    exact account.coherent
  suits := suits
  books := account.books.congr shared exclusive

theorem books_of_idle (account : Account ⟨handles, .idle⟩ bound shares excludes) :
    Books handles bound shares excludes :=
  account.books

theorem of_idle (coherent : handles.Coherent none) (books : Books handles bound shares excludes) :
    Account ⟨handles, .idle⟩ bound shares excludes where
  coherent := coherent
  suits := by simp [Activity.Pursues]
  books := books

theorem discard (account : Account ⟨handles, .idle⟩ bound shares excludes)
    (found : handles.get? id = some handle) (inactive : handle.isActive = false)
    (free : handles.isBorrowed id = false) :
    Account ⟨handles.erase id, .idle⟩ bound shares excludes := by
  have coherent : handles.Coherent none := account.coherent
  refine of_idle (coherent.erase ?_ (Handles.childless_of_free free) (by simp)) ?_
  · intro other otherFound
    rw [found] at otherFound
    cases otherFound
    exact inactive
  · exact account.books_of_idle.erase coherent.keyed found inactive

/-- An active handle of an idle thread gives its hold back. -/
theorem books_release (account : Account ⟨handles, .idle⟩ bound shares excludes)
    (found : handles.get? id = some handle)
    (shared : ∀ lock, shares' lock = shares lock - if handle.sharesOn lock then 1 else 0)
    (exclusive : ∀ lock, excludes' lock = excludes lock - if handle.excludesOn lock then 1 else 0) :
    Books (handles.modify id Handle.afterRelease) bound shares' excludes' := by
  have books := account.books_of_idle
  apply books.modify account.coherent.keyed found _
  · intro lock
    have released := Handle.sharesOn_of_inactive handle.isActive_afterRelease lock
    rw [shared, released]
    by_cases holds : handle.sharesOn lock = true
    · have := books.shares_pos found lock holds
      simp only [holds, if_true, Bool.false_eq_true, if_false]
      omega
    · simp [holds]
  · intro lock
    have released := Handle.excludesOn_of_inactive handle.isActive_afterRelease lock
    rw [exclusive, released]
    by_cases holds : handle.excludesOn lock = true
    · have := books.excludes_pos found lock holds
      simp only [holds, if_true, Bool.false_eq_true, if_false]
      omega
    · simp [holds]

theorem release (account : Account ⟨handles, .idle⟩ bound shares excludes) (drop : Bool)
    (found : handles.get? id = some handle) (active : handle.isActive = true)
    (orphan : handle.parent? = none) (free : handles.isBorrowed id = false)
    (shared : ∀ lock, shares' lock = shares lock - if handle.sharesOn lock then 1 else 0)
    (exclusive : ∀ lock, excludes' lock = excludes lock - if handle.excludesOn lock then 1 else 0) :
    Account ⟨afterRelease handles id drop, .idle⟩ bound shares' excludes' := by
  have childless := Handles.childless_of_free free
  have coherent : (handles.modify id Handle.afterRelease).Coherent none := by
    have released := account.coherent.release found active childless
    rw [orphan] at released
    exact released
  have books := account.books_release found shared exclusive
  cases drop with
  | false => exact of_idle coherent books
  | true =>
      have released : (handles.modify id Handle.afterRelease).get? id = some handle.afterRelease :=
        (Handles.get?_modify_eq_some_iff found).mpr (Or.inl ⟨rfl, rfl⟩)
      refine of_idle (coherent.erase ?_ (childless.modify Handle.parent?_afterRelease) (by simp))
        (books.erase coherent.keyed released handle.isActive_afterRelease)
      intro other otherFound
      rw [released] at otherFound
      cases otherFound
      exact handle.isActive_afterRelease

theorem releaseChild (account : Account ⟨handles, .idle⟩ bound shares excludes) {place : LockId}
    {parent : HandleId} (found : handles.get? id = some (.exclusive place true (some parent)))
    (drop : Bool) (since : Instant) (shared : ∀ lock, shares' lock = shares lock)
    (exclusive : ∀ lock, excludes' lock = excludes lock - if place = lock then 1 else 0) :
    Account
      ⟨handles.modify id Handle.afterRelease,
        .asking { purpose := .restore id parent drop, lock := place, request := .shared, since }⟩
      bound shares' excludes' where
  coherent := account.coherent.release_exclusive found
  suits := by
    rintro pursuit (same | same)
    · cases same
      rcases account.coherent.parented found with ⟨state, parentFound, suspended⟩
      rw [suspended rfl] at parentFound
      have apart : parent ≠ id := Handles.ne_of_get? found parentFound (by simp)
      exact ⟨rfl, rfl, (Handles.get?_modify_eq_some_iff found).mpr (Or.inl ⟨rfl, rfl⟩),
        (Handles.get?_modify_eq_some_iff found).mpr (Or.inr ⟨apart, parentFound⟩)⟩
    · cases same
  books := by
    apply account.books_release found
    · intro lock
      rw [shared]
      simp [Handle.sharesOn]
    · intro lock
      rw [exclusive]
      simp [Handle.excludesOn, Activity.owed, Activity.owes]

theorem upgrade (account : Account ⟨handles, .idle⟩ bound shares excludes) {place : LockId}
    (found : handles.get? id = some (.shared place .active false))
    (free : handles.isBorrowed id = false) (since : Instant)
    (shared : ∀ lock, shares' lock = shares lock - if place = lock then 1 else 0)
    (exclusive : ∀ lock, excludes' lock = excludes lock) :
    Account
      ⟨handles.modify id (·.withState .suspended),
        .asking { purpose := .upgrade id, lock := place, request := .exclusive, since }⟩
      bound shares' excludes' where
  coherent := account.coherent.suspend found (Handles.childless_of_free free)
  suits := by
    rintro pursuit (same | same)
    · cases same
      exact ⟨rfl, rfl, (Handles.get?_modify_eq_some_iff found).mpr (Or.inl ⟨rfl, rfl⟩)⟩
    · cases same
  books := by
    have books := account.books_of_idle
    apply books.modify account.coherent.keyed found (·.withState .suspended)
    · intro lock
      rw [shared]
      by_cases same : place = lock
      · have positive := books.shares_pos found lock (by simp [Handle.sharesOn, same])
        simp [Handle.sharesOn, Handle.withState, same, Nat.sub_add_cancel positive]
      · simp [Handle.sharesOn, Handle.withState, same]
    · intro lock
      rw [exclusive]
      simp [Handle.excludesOn, Handle.withState, Activity.owed, Activity.owes]

/-- A request has been granted, and there is a handle for its hold. -/
theorem acquire (account : Account state bound shares excludes) {pursuit : Pursuit}
    (pursues : state.activity.Pursues pursuit) (purpose : pursuit.purpose = .acquire)
    (gains : pursuit.Gains shares excludes shares' excludes') :
    Account ⟨state.handles.add bound pursuit.handle, .idle⟩ (bound + 1) shares' excludes' := by
  have coherent := account.coherent
  have books := account.books
  have suits := account.suits pursuit pursues
  simp only [pursues.turning?, purpose, Purpose.turning?] at coherent
  simp only [Pursuit.Suits, purpose] at suits
  have fresh : ∀ holds, pursuit.request ≠ .resume holds := by
    intro holds same
    simp [same] at suits
  have orphan : pursuit.handle.parent? = none := by
    simp only [Pursuit.handle]
    split <;> rfl
  have active : pursuit.handle.isActive = true := by
    simp only [Pursuit.handle]
    split <;> rfl
  have absent := books.numbered bound (Nat.le_refl bound)
  refine of_idle (Handles.Coherent.add (orphan ▸ coherent) absent active (by simp [orphan]))
    (books.add (fun lock => ?_) fun lock => ?_)
  · rw [gains.shared]
    rcases suits with request | request <;>
      simp [Pursuit.handle, request, Request.writes, Request.shares, Handle.sharesOn]
  · rw [gains.exclusive, pursues.owed_eq_zero fresh]
    rcases suits with request | request <;>
      simp [Pursuit.handle, request, Request.writes, Request.excludes, Handle.excludesOn]

/-- An upgrade has been granted, and there is a handle for the exclusive hold. -/
theorem makeChild (account : Account state bound shares excludes) {pursuit : Pursuit}
    {parent : HandleId} (pursues : state.activity.Pursues pursuit)
    (purpose : pursuit.purpose = .upgrade parent)
    (gains : pursuit.Gains shares excludes shares' excludes') :
    Account
      ⟨(state.handles.modify parent Handle.afterUpgrade).add bound
        (.exclusive pursuit.lock true (some parent)), .idle⟩ (bound + 1) shares' excludes' := by
  have coherent := account.coherent
  have suits := account.suits pursuit pursues
  simp only [pursues.turning?, purpose, Purpose.turning?] at coherent
  simp only [Pursuit.Suits, purpose] at suits
  rcases suits with ⟨request, _, found⟩
  have books : Books (state.handles.modify parent Handle.afterUpgrade) bound shares excludes := by
    apply account.books.modify coherent.keyed found _
    · intro lock
      simp [Handle.sharesOn, Handle.afterUpgrade]
    · intro lock
      simp [Handle.excludesOn, Handle.afterUpgrade, pursues.owed_eq_zero, request]
  have childless : (state.handles.modify parent Handle.afterUpgrade).Childless parent :=
    (coherent.childless found (by simp)).modify Handle.parent?_afterUpgrade
  have absent := books.numbered bound (Nat.le_refl bound)
  refine of_idle ((coherent.markUpgraded found).add absent rfl ?_)
    (books.add (fun lock => ?_) fun lock => ?_)
  · intro key same
    cases same
    exact ⟨(Handles.get?_modify_eq_some_iff found).mpr (Or.inl ⟨rfl, rfl⟩), childless⟩
  · simp [gains.shared, request, Request.shares, Handle.sharesOn]
  · simp [gains.exclusive, request, Request.excludes, Handle.excludesOn]

theorem books_reactivate (account : Account state bound shares excludes) {pursuit : Pursuit}
    {parent : HandleId} {upgraded : Bool} (pursues : state.activity.Pursues pursuit)
    (request : pursuit.request = .shared)
    (found : state.handles.get? parent = some (.shared pursuit.lock .suspended upgraded))
    (gains : pursuit.Gains shares excludes shares' excludes') :
    Books (state.handles.modify parent (·.withState .active)) bound shares' excludes' := by
  apply account.books.modify account.coherent.keyed found _
  · intro lock
    simp [gains.shared, request, Request.shares, Handle.sharesOn, Handle.withState]
  · intro lock
    simp [gains.exclusive, request, Request.excludes, Handle.excludesOn, Handle.withState,
      pursues.owed_eq_zero]

theorem recover (account : Account state bound shares excludes) {pursuit : Pursuit}
    {parent : HandleId} {error : LockError} (pursues : state.activity.Pursues pursuit)
    (purpose : pursuit.purpose = .recover parent error)
    (gains : pursuit.Gains shares excludes shares' excludes') :
    Account ⟨state.handles.modify parent (·.withState .active), .idle⟩ bound shares' excludes' := by
  have coherent := account.coherent
  have suits := account.suits pursuit pursues
  simp only [pursues.turning?, purpose, Purpose.turning?] at coherent
  simp only [Pursuit.Suits, purpose] at suits
  rcases suits with ⟨request, _, found⟩
  refine of_idle (coherent.reactivate found fun child place childFound => ?_)
    (account.books_reactivate pursues request found gains)
  exact coherent.childless found (by simp) child _ childFound rfl

theorem restore (account : Account state bound shares excludes) {pursuit : Pursuit}
    {child parent : HandleId} {drop : Bool} (pursues : state.activity.Pursues pursuit)
    (purpose : pursuit.purpose = .restore child parent drop)
    (gains : pursuit.Gains shares excludes shares' excludes') :
    Account
      ⟨let restored := state.handles.modify parent (·.withState .active)
        if drop then restored.erase child else restored, .idle⟩ bound shares' excludes' := by
  have coherent := account.coherent
  have suits := account.suits pursuit pursues
  simp only [pursues.turning?, purpose, Purpose.turning?] at coherent
  simp only [Pursuit.Suits, purpose] at suits
  rcases suits with ⟨request, _, childFound, found⟩
  have restored : (state.handles.modify parent (·.withState .active)).Coherent none := by
    apply coherent.reactivate found
    intro other place otherFound
    obtain rfl := coherent.onlyChild childFound otherFound
    rw [childFound] at otherFound
    cases otherFound
  have books := account.books_reactivate pursues request found gains
  cases drop with
  | false => exact of_idle restored books
  | true =>
      have apart : child ≠ parent := Handles.ne_of_get? found childFound (by simp)
      have released : (state.handles.modify parent (·.withState .active)).get? child
          = some (.exclusive pursuit.lock false (some parent)) :=
        (Handles.get?_modify_eq_some_iff found).mpr (Or.inr ⟨apart, childFound⟩)
      refine of_idle (restored.erase ?_ (restored.childless released (by simp)) (by simp))
        (books.erase restored.keyed released rfl)
      intro other otherFound
      rw [released] at otherFound
      cases otherFound
      rfl

/-- A wait is over, and the thread has its exclusive holds back. -/
theorem resume (account : Account state bound shares excludes) {pursuit : Pursuit}
    {signalled : Bool} (pursues : state.activity.Pursues pursuit)
    (purpose : pursuit.purpose = .resume signalled)
    (gains : pursuit.Gains shares excludes shares' excludes') :
    Account ⟨state.handles, .idle⟩ bound shares' excludes' := by
  have suits := account.suits pursuit pursues
  simp only [Pursuit.Suits, purpose] at suits
  rcases suits with ⟨⟨holds, request⟩, _⟩
  refine account.turn ?_ (by simp [Activity.Pursues]) (fun lock => ?_) fun lock => ?_
  · rw [pursues.turning?, purpose]
    rfl
  · simp [gains.shared, request, Request.shares]
  · rw [gains.exclusive, request, pursues.owed_of_resume request]
    rfl

/-- A request comes to nothing, and nothing was given up for it. -/
theorem quit (account : Account state bound shares excludes) {pursuit : Pursuit}
    (pursues : state.activity.Pursues pursuit) (purpose : pursuit.purpose = .acquire)
    (shared : ∀ lock, shares' lock = shares lock)
    (exclusive : ∀ lock, excludes' lock = excludes lock) :
    Account ⟨state.handles, .idle⟩ bound shares' excludes' := by
  have suits := account.suits pursuit pursues
  simp only [Pursuit.Suits, purpose] at suits
  have fresh : ∀ holds, pursuit.request ≠ .resume holds := by
    intro holds same
    simp [same] at suits
  refine account.turn ?_ (by simp [Activity.Pursues]) shared fun lock => ?_
  · rw [pursues.turning?, purpose]
    rfl
  · rw [exclusive, pursues.owed_eq_zero fresh]
    rfl

end Account

theorem Pursuit.Suits.acquire_of_timed {pursuit : Pursuit} {handles : Handles}
    (suits : pursuit.Suits handles) (timed : pursuit.deadline ≠ none) :
    pursuit.purpose = .acquire := by
  cases purpose : pursuit.purpose <;> simp_all [Pursuit.Suits]

theorem Pursuit.Suits.acquire_of_refused {pursuit : Pursuit} {handles : Handles}
    (suits : pursuit.Suits handles) (request : pursuit.request = .exclusive)
    (other : ∀ parent, pursuit.purpose ≠ .upgrade parent) : pursuit.purpose = .acquire := by
  cases purpose : pursuit.purpose <;> simp_all [Pursuit.Suits]

theorem Plain.turning?_eq_none {activity : Activity} (plain : Plain activity) :
    activity.turning? = none := by
  cases plain with
  | idle => rfl
  | notifying condition all => rfl
  | acquiring purpose request => simp [Activity.turning?, purpose, Purpose.turning?]

theorem Plain.acquires {activity : Activity} (plain : Plain activity) {pursuit : Pursuit}
    (pursues : activity.Pursues pursuit) :
    pursuit.purpose = .acquire ∧ (pursuit.request = .shared ∨ pursuit.request = .exclusive) := by
  cases plain with
  | idle => simp [Activity.Pursues] at pursues
  | notifying condition all => simp [Activity.Pursues] at pursues
  | acquiring purpose request =>
      rcases pursues with same | same
      · cases same
        exact ⟨purpose, request⟩
      · cases same

namespace Accounts

variable {system : LockSystem} {thread : ThreadId} {change : Change} {stepped : Stepped}

theorem of_fresh (fresh : system.Fresh) : system.Accounts := by
  intro thread
  rw [fresh.threads]
  refine Account.of_idle Handles.Coherent.empty (Books.empty (fun lock => ?_) fun lock => ?_)
  · simp [fresh.book, Book.sharedHolds]
  · simp [fresh.book, Book.exclusiveHolds]

theorem nextHandle_le (transition : Transition system thread change) :
    system.nextHandle ≤ change.nextHandle := by
  cases transition <;> simp

/-- A step keeps the accounts if it tells on the holds of no other thread and keeps the account of
the thread that takes it. -/
theorem of_own (accounts : system.Accounts) (le : system.nextHandle ≤ change.nextHandle)
    (stores : Stores system thread change stepped)
    (others : ∀ other, thread ≠ other → ∀ lock,
      (stepped.state.locks.get lock).book.sharedHolds other
          = (system.locks.get lock).book.sharedHolds other ∧
        (stepped.state.locks.get lock).book.exclusiveHolds other
          = (system.locks.get lock).book.exclusiveHolds other)
    (own : Account change.thread change.nextHandle
      (fun lock => (stepped.state.locks.get lock).book.sharedHolds thread)
      (fun lock => (stepped.state.locks.get lock).book.exclusiveHolds thread)) :
    stepped.state.Accounts := by
  intro other
  rw [stores.nextHandle]
  by_cases same : thread = other
  · subst same
    rw [stores.own]
    exact own
  · have account := accounts other
    rw [stores.others other same]
    refine ⟨account.coherent, account.suits, ?_⟩
    apply (account.books.raise le).congr
    · intro lock
      exact (others other same lock).1
    · intro lock
      rw [(others other same lock).2]

theorem keep (accounts : system.Accounts) (le : system.nextHandle ≤ change.nextHandle)
    (stores : Stores system thread change stepped) (untouched : change.lock = none)
    (own : Account change.thread change.nextHandle
      (fun lock => (system.locks.get lock).book.sharedHolds thread)
      (fun lock => (system.locks.get lock).book.exclusiveHolds thread)) :
    stepped.state.Accounts := by
  have unchanged := stores.unchanged untouched
  apply accounts.of_own le stores
  · intro other _ lock
    simp [unchanged]
  · simpa only [unchanged] using own

theorem give (accounts : system.Accounts) (le : system.nextHandle ≤ change.nextHandle)
    (stores : Stores system thread change stepped) {place : LockId} {lock : Lock}
    {shares excludes : Nat} (changed : change.lock = some (place, lock))
    (gives : (system.locks.get place).Gives thread shares excludes lock)
    (own : ∀ shares' excludes' : LockId → Nat,
      (∀ id, shares' id = (system.locks.get id).book.sharedHolds thread
        - if place = id then shares else 0) →
      (∀ id, excludes' id = (system.locks.get id).book.exclusiveHolds thread
        - if place = id then excludes else 0) →
      Account change.thread change.nextHandle shares' excludes') :
    stepped.state.Accounts := by
  have changed := stores.changed place lock changed
  refine accounts.of_own le stores (fun other apart id => ?_)
    (own _ _ (fun id => ?_) fun id => ?_)
  · rw [changed]
    split
    · subst place
      exact ⟨by simp [gives.sharedHolds, apart], by simp [gives.exclusiveHolds, apart]⟩
    · exact ⟨rfl, rfl⟩
  · rw [changed]
    split
    · subst place
      simp [gives.sharedHolds]
    · simp
  · rw [changed]
    split
    · subst place
      simp [gives.exclusiveHolds]
    · simp

theorem settle (accounts : system.Accounts) (queues : system.Queues)
    (le : system.nextHandle ≤ change.nextHandle) (stores : Stores system thread change stepped)
    {pursuit : Pursuit} {lock : Lock}
    {outcome : Lock.Outcome} (attempt : Attempt system thread pursuit (lock, outcome))
    (changed : change.lock = some (pursuit.lock, lock))
    (own : ∀ shares' excludes' : LockId → Nat,
      (∀ id, shares' id = (system.locks.get id).book.sharedHolds thread
        + if pursuit.lock = id ∧ outcome.grants then pursuit.request.shares else 0) →
      (∀ id, excludes' id = (system.locks.get id).book.exclusiveHolds thread
        + if pursuit.lock = id ∧ outcome.grants then pursuit.request.excludes else 0) →
      Account change.thread change.nextHandle shares' excludes') :
    stepped.state.Accounts := by
  have changed := stores.changed pursuit.lock lock changed
  rcases queues.attempt attempt with ⟨_, settles⟩
  refine accounts.of_own le stores (fun other apart id => ?_)
    (own _ _ (fun id => ?_) fun id => ?_)
  · rw [changed]
    split
    · subst id
      exact ⟨by simp [settles.sharedHolds, apart], by simp [settles.exclusiveHolds, apart]⟩
    · exact ⟨rfl, rfl⟩
  · rw [changed]
    by_cases same : pursuit.lock = id
    · subst id
      simp [settles.sharedHolds]
    · simp [same]
  · rw [changed]
    by_cases same : pursuit.lock = id
    · subst id
      simp [settles.exclusiveHolds]
    · simp [same]

theorem grant (accounts : system.Accounts) (queues : system.Queues)
    (le : system.nextHandle ≤ change.nextHandle) (stores : Stores system thread change stepped)
    {pursuit : Pursuit} {lock : Lock}
    {outcome : Lock.Outcome} (attempt : Attempt system thread pursuit (lock, outcome))
    (granted : outcome.grants = true) (changed : change.lock = some (pursuit.lock, lock))
    (own : ∀ shares' excludes' : LockId → Nat,
      pursuit.Gains (fun id => (system.locks.get id).book.sharedHolds thread)
        (fun id => (system.locks.get id).book.exclusiveHolds thread) shares' excludes' →
      Account change.thread change.nextHandle shares' excludes') :
    stepped.state.Accounts := by
  apply accounts.settle queues le stores attempt changed
  intro shares' excludes' shared exclusive
  exact own _ _ ⟨by simpa [granted] using shared, by simpa [granted] using exclusive⟩

theorem deny (accounts : system.Accounts) (queues : system.Queues)
    (le : system.nextHandle ≤ change.nextHandle) (stores : Stores system thread change stepped)
    {pursuit : Pursuit} {lock : Lock}
    {outcome : Lock.Outcome} (attempt : Attempt system thread pursuit (lock, outcome))
    (denied : outcome.grants = false) (changed : change.lock = some (pursuit.lock, lock))
    (own : ∀ shares' excludes' : LockId → Nat,
      (∀ id, shares' id = (system.locks.get id).book.sharedHolds thread) →
      (∀ id, excludes' id = (system.locks.get id).book.exclusiveHolds thread) →
      Account change.thread change.nextHandle shares' excludes') :
    stepped.state.Accounts := by
  apply accounts.settle queues le stores attempt changed
  intro shares' excludes' shared exclusive
  exact own _ _ (by simpa [denied] using shared) (by simpa [denied] using exclusive)

theorem of_idle (accounts : system.Accounts) (idle : system.activity thread = .idle) :
    Account ⟨system.handles thread, .idle⟩ system.nextHandle
      (fun lock => (system.locks.get lock).book.sharedHolds thread)
      (fun lock => (system.locks.get lock).book.exclusiveHolds thread) := by
  have account := accounts thread
  have same : system.threads.get thread = ⟨system.handles thread, .idle⟩ := by
    rw [← idle]
    rfl
  rw [same] at account
  exact account

theorem step (accounts : system.Accounts) (queues : system.Queues)
    (transition : Transition system thread change)
    (stores : Stores system thread change stepped) : stepped.state.Accounts := by
  have account := accounts thread
  have le := nextHandle_le transition
  cases transition with
  | turn after reply before plain =>
      refine accounts.keep le stores rfl (account.turn ?_ ?_ (fun _ => rfl) fun lock => ?_)
      · exact plain.turning?_eq_none.trans before.turning?_eq_none.symm
      · intro pursuit pursues
        rcases plain.acquires pursues with ⟨purpose, request⟩
        simp only [Pursuit.Suits, purpose]
        exact request
      · have before : (system.threads.get thread).activity.owes = none := before.owes_eq_none
        simp [Activity.owed, before, plain.owes_eq_none]
  | stay waiting => exact accounts.keep le stores rfl account
  | discard idle found inactive free =>
      exact accounts.keep le stores rfl ((accounts.of_idle idle).discard found inactive free)
  | releaseShared drop idle found free =>
      apply accounts.give le stores rfl (Lock.gives_releaseShared (queues.sound _) thread)
      intro shares' excludes' shared exclusive
      apply (accounts.of_idle idle).release drop found rfl rfl free
      · intro lock
        simp [shared, Handle.sharesOn]
      · intro lock
        simp [exclusive, Handle.excludesOn]
  | releaseExclusive drop idle found free =>
      apply accounts.give le stores rfl (Lock.gives_releaseExclusive (queues.sound _) thread)
      intro shares' excludes' shared exclusive
      apply (accounts.of_idle idle).release drop found rfl rfl free
      · intro lock
        simp [shared, Handle.sharesOn]
      · intro lock
        simp [exclusive, Handle.excludesOn]
  | releaseChild drop since idle found free =>
      apply accounts.give le stores rfl (Lock.gives_releaseExclusive (queues.sound _) thread)
      intro shares' excludes' shared exclusive
      exact (accounts.of_idle idle).releaseChild found drop since (by simpa using shared) exclusive
  | upgrade since idle found free =>
      apply accounts.give le stores rfl (Lock.gives_releaseShared (queues.sound _) thread)
      intro shares' excludes' shared exclusive
      exact (accounts.of_idle idle).upgrade found free since shared (by simpa using exclusive)
  | @wait id place parent lock holds name idle found suspended =>
      apply accounts.give le stores rfl (Lock.gives_suspend (queues.sound _) suspended)
      intro shares' excludes' shared exclusive
      rcases Lock.suspend_eq_ok_iff.mp suspended with ⟨_, writer, _, all⟩
      refine (accounts.of_idle idle).turn rfl (by simp [Activity.Pursues]) (by simpa using shared)
        fun id => ?_
      -- All the exclusive holds of the writer are given up, so as many are owed.
      rw [exclusive]
      by_cases same : place = id
      · subst same
        simp [Activity.owed, Activity.owes, Book.exclusiveHolds, writer, all]
      · simp [Activity.owed, Activity.owes, same]
  | leave signalled since waiting =>
      have waiting : (system.threads.get thread).activity = _ := waiting
      refine accounts.keep le stores rfl (account.turn ?_ ?_ (fun _ => rfl) fun lock => ?_)
      · rw [waiting]
        rfl
      · rintro pursuit (same | same)
        · cases same
          exact ⟨⟨_, rfl⟩, rfl⟩
        · cases same
      · rw [waiting]
        rfl
  | park attempt =>
      apply accounts.deny queues le stores attempt rfl rfl
      intro shares' excludes' shared exclusive
      have pursues : (system.threads.get thread).activity.Pursues _ := attempt.activity
      refine account.turn pursues.turning?.symm ?_ shared fun lock => ?_
      · rintro pursuit (same | same)
        · cases same
        · cases same
          exact account.suits _ pursues
      · rw [exclusive, pursues.owed_parked]
  | timeOut attempt =>
      apply accounts.deny queues le stores attempt rfl rfl
      intro shares' excludes' shared exclusive
      have suits := account.suits _ attempt.activity
      exact account.quit attempt.activity
        (suits.acquire_of_timed (queues.deadline_ne_none attempt rfl)) shared exclusive
  | refuse attempt other =>
      apply accounts.deny queues le stores attempt rfl rfl
      intro shares' excludes' shared exclusive
      have suits := account.suits _ attempt.activity
      exact account.quit attempt.activity
        (suits.acquire_of_refused (attempt.request_of_refused rfl) other) shared exclusive
  | refuseUpgrade since attempt purpose =>
      apply accounts.deny queues le stores attempt rfl rfl
      intro shares' excludes' shared exclusive
      have pursues : (system.threads.get thread).activity.Pursues _ := attempt.activity
      have suits := account.suits _ pursues
      simp only [Pursuit.Suits, purpose] at suits
      refine account.turn ?_ ?_ shared fun lock => ?_
      · rw [pursues.turning?, purpose]
        rfl
      · rintro next (same | same)
        · cases same
          exact ⟨rfl, rfl, suits.2.2⟩
        · cases same
      · rw [exclusive, pursues.owed_eq_zero (by simp [suits.1])]
        rfl
  | acquire attempt granted purpose =>
      exact accounts.grant queues le stores attempt granted rfl fun _ _ gains =>
        account.acquire attempt.activity purpose gains
  | makeChild attempt granted purpose =>
      exact accounts.grant queues le stores attempt granted rfl fun _ _ gains =>
        account.makeChild attempt.activity purpose gains
  | recover attempt granted purpose =>
      exact accounts.grant queues le stores attempt granted rfl fun _ _ gains =>
        account.recover attempt.activity purpose gains
  | restore attempt granted purpose =>
      exact accounts.grant queues le stores attempt granted rfl fun _ _ gains =>
        account.restore attempt.activity purpose gains
  | resume attempt granted purpose =>
      exact accounts.grant queues le stores attempt granted rfl fun _ _ gains =>
        account.resume attempt.activity purpose gains

end Accounts

theorem accounts_of_reachable {system : LockSystem} (reachable : system.Reachable) :
    system.Accounts := by
  let Kept (system : LockSystem) : Prop := system.Queues ∧ system.Accounts
  have kept : Kept system := by
    apply reachable.induction (fun fresh => ⟨Queues.of_fresh fresh, Accounts.of_fresh fresh⟩)
    rintro system now move stepped ⟨queues, accounts⟩ performed
    rcases perform_transition performed with ⟨change, transition, stores⟩
    exact ⟨queues.step transition stores, accounts.step queues transition stores⟩
  exact kept.2

end Coordination.LockSystem
