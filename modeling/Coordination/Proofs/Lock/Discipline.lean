import Coordination.Proofs.Lock.Accounting
import Coordination.Proofs.Lock.Team
import Coordination.Proofs.Lock.Upgrading

/-!
# Counting under a lock

To bump the counter takes a thread two steps: it loads the counter, and then it stores the number after
what it has loaded. A program is disciplined if it does so only under the exclusive lock, and, where the
counter has a limit, only after it has seen under the same hold that there is room (`Plan`). A plan says
how many bumps the rest of the program owes and bounds the number of its steps.

A thread that runs a disciplined program always stands at some point of its plan (`Stands`). Its own
steps take it along the plan (`Stands.step`), and the steps of the others leave it where it is: what a
thread knows about the counter matters only under the exclusive lock, which no two threads have
(`unique_of_excluding`).
-/

namespace Coordination

open LockSystem (Operation Reply Stepped Pursuit Activity)

/-- The cell of the counter. -/
def counter : String := "counter"

/-- Adds one to the counter in two steps. -/
def bump : Program Operation Reply Unit :=
  .load counter fun value => .store counter (value.getD 0 + 1) (.finish ())

/-- The counter may go on from a number, if it has a limit. -/
def Room (limit : Option Nat) (count : Nat) : Prop := ∀ bound ∈ limit, count < bound

/-- Handles of a thread that has the exclusive lock. -/
def Excluding (handles : Handles) : Prop :=
  ∃ id parent, handles.get? id = some (.exclusive 0 true parent)

/-- What is left of a disciplined program, for a thread that is not in the middle of a call: the handles
of the thread, whether it has seen that there is room, how many bumps it owes, and a bound on the steps
that it still takes, apart from waking up in vain. -/
inductive Plan (limit : Option Nat) :
    Handles → Bool → Nat → Nat → Program Operation Reply Unit → Prop where
  | finish : Plan limit {} false 0 0 (.finish ())
  | shared {handles : Handles} {seen : Bool} {owed size : Nat}
      {next : Reply → Program Operation Reply Unit}
      (rest : ∀ id, handles.get? id = none →
        Plan limit (handles.add id (.shared 0 .active false)) false owed size (next (.handle id))) :
      Plan limit handles seen owed (size + 3) (.ask (.shared 0 none) next)
  | exclusive {seen : Bool} {owed size : Nat} {next : Reply → Program Operation Reply Unit}
      (rest : ∀ id,
        Plan limit ⟨[(id, .exclusive 0 true none)]⟩ false owed size (next (.handle id))) :
      Plan limit {} seen owed (size + 3) (.ask (.exclusive 0 none) next)
  | upgrade {id : HandleId} {seen : Bool} {owed size : Nat}
      {next : Reply → Program Operation Reply Unit}
      (rest : ∀ child, child ≠ id →
        Plan limit ⟨[(id, .shared 0 .suspended true), (child, .exclusive 0 true (some id))]⟩ false owed
          size (next (.handle child))) :
      Plan limit ⟨[(id, .shared 0 .active false)]⟩ seen owed (size + 3) (.ask (.upgrade id) next)
  | drop {handles : Handles} {id : HandleId} (handle : Handle) {seen : Bool} {owed size : Nat}
      {next : Reply → Program Operation Reply Unit} (found : handles.get? id = some handle)
      (active : handle.isActive = true) (orphan : handle.parent? = none)
      (free : handles.isBorrowed id = false)
      (rest : Plan limit (LockSystem.afterRelease handles id true) false owed size (next .done)) :
      Plan limit handles seen owed (size + 1) (.ask (.drop id) next)
  | dropChild {id child : HandleId} {seen : Bool} {owed size : Nat}
      {next : Reply → Program Operation Reply Unit} (apart : child ≠ id)
      (rest : Plan limit ⟨[(id, .shared 0 .active true)]⟩ false owed size (next .done)) :
      Plan limit ⟨[(id, .shared 0 .suspended true), (child, .exclusive 0 true (some id))]⟩ seen owed
        (size + 3) (.ask (.drop child) next)
  /-- What is seen under the exclusive lock may be relied on; without room less may be owed. -/
  | look {handles : Handles} {seen : Bool} {owed size : Nat} (sees : Bool) (fewer less : Nat)
      {next : Option Int → Program Operation Reply Unit} (sure : sees = true → Excluding handles)
      (room : ∀ count : Nat, Room limit count → Plan limit handles sees owed size (next (some count)))
      (due : fewer ≤ owed) (shorter : less ≤ size)
      (full : ∀ count : Nat, ¬Room limit count →
        Plan limit handles false fewer less (next (some count))) :
      Plan limit handles seen owed (size + 1) (.load counter next)
  | bump {handles : Handles} {seen : Bool} {owed size : Nat} {next : Program Operation Reply Unit}
      (excluding : Excluding handles) (room : seen = true ∨ limit = none)
      (rest : Plan limit handles false owed size next) :
      Plan limit handles seen (owed + 1) (size + 2) (bump.bind fun _ => next)

namespace LockSystem

/-- A thread that waits for its request, and how many more steps that may take it. -/
inductive Activity.Waits (activity : Activity) (pursuit : Pursuit) : Nat → Prop where
  | asks (asking : activity = .asking pursuit) : Waits activity pursuit 2
  | parks (parked : activity = .parked pursuit) : Waits activity pursuit 1

theorem Activity.Waits.pursues {activity : Activity} {pursuit : Pursuit} {delay : Nat}
    (waits : activity.Waits pursuit delay) : activity.Pursues pursuit := by
  cases waits with
  | asks asking => exact Or.inl asking
  | parks parked => exact Or.inr parked

/-- A thread that is parked and cannot go on. -/
def Stuck (system : LockSystem) (thread : ThreadId) : Prop :=
  ∃ pursuit, system.activity thread = .parked pursuit ∧
    (system.locks.get pursuit.lock).book.admits thread pursuit.request = false

theorem Attempt.not_admitted {system : LockSystem} {thread : ThreadId} {pursuit : Pursuit}
    {result : Lock × Lock.Outcome} (queues : system.Queues)
    (attempt : system.Attempt thread pursuit result)
    (parked : system.activity thread = .parked pursuit) (again : result.2 = .parked) :
    (system.locks.get pursuit.lock).book.admits thread pursuit.request = false := by
  cases attempt with
  | ask asking => cases asking.symm.trans parked
  | wake _ found =>
      rcases Lock.waiter?_eq_some found with ⟨_, rfl⟩
      rw [← (queues.placed parked found).1]
      by_contra admitted
      simp only [Bool.not_eq_false] at admitted
      simp [Lock.wake, Lock.attempt, Lock.unpark, admitted] at again
  | @expire _ waiter found timed =>
      rcases Lock.expire_outcome (system.locks.get pursuit.lock) waiter with outcome | outcome
      · cases again.symm.trans outcome
      · cases again.symm.trans outcome

end LockSystem

/-- Where a thread stands that runs a disciplined program. -/
inductive Stands (limit : Option Nat) (count : Nat) (state : LockSystem.Thread) :
    Work → Nat → Nat → Prop where
  | ready {handles : Handles} {seen : Bool} {owed size : Nat} {program : Program Operation Reply Unit}
      (rests : state = ⟨handles, .idle⟩) (plan : Plan limit handles seen owed size program)
      (room : seen = true → Excluding handles ∧ Room limit count) :
      Stands limit count state (.ready program) owed size
  /-- Between the two steps of a bump. -/
  | writing {handles : Handles} {owed size : Nat} {next : Program Operation Reply Unit}
      (rests : state = ⟨handles, .idle⟩) (excluding : Excluding handles) (room : Room limit count)
      (plan : Plan limit handles false owed size next) :
      Stands limit count state (.ready (.store counter (count + 1) next)) (owed + 1) (size + 1)
  | pursuing {pursuit : Pursuit} {owed size delay : Nat} {next : Reply → Program Operation Reply Unit}
      (waits : state.activity.Waits pursuit delay) (patient : pursuit.deadline = none)
      (there : pursuit.lock = 0)
      (shareless : pursuit.request = .exclusive → state.handles.tally (Handle.sharesOn 0) = 0)
      (granted : ∀ id, state.handles.get? id = none →
        Plan limit (pursuit.grants state.handles id).1 false owed size
          (next (pursuit.grants state.handles id).2)) :
      Stands limit count state (.pending next) owed (size + delay)

section Steps

variable {system : LockSystem} {thread : ThreadId} {now : Instant} {limit : Option Nat} {count : Nat}

/-- No two threads have the exclusive lock. -/
theorem unique_of_excluding {other : ThreadId} {handles handles' : Handles}
    (reachable : system.Reachable) (rests : system.threads.get thread = ⟨handles, .idle⟩)
    (rests' : system.threads.get other = ⟨handles', .idle⟩) (excluding : Excluding handles)
    (excluding' : Excluding handles') : thread = other := by
  have writer {thread : ThreadId} {handles : Handles}
      (rests : system.threads.get thread = ⟨handles, .idle⟩) (excluding : Excluding handles) :
      (system.locks.get 0).book.writer = some thread := by
    rcases excluding with ⟨id, parent, found⟩
    have idle : system.activity thread = .idle := by rw [LockSystem.activity, rests]
    have held : (system.handles thread).get? id = some (.exclusive 0 true parent) := by
      rw [LockSystem.handles, rests]
      exact found
    exact (LockSystem.accounts_of_reachable reachable).writer_of_held
      (LockSystem.queues_of_reachable reachable) idle held
  exact Option.some.inj ((writer rests excluding).symm.trans (writer rests' excluding'))

open LockSystem in
/-- A call under way takes a step: it comes closer to its reply, or the thread parks again. -/
theorem Stands.pursue (count : Nat) {move : Move} {stepped : Stepped} {pursuit : Pursuit}
    {owed size delay : Nat} {rest : Reply → Program Operation Reply Unit} (reachable : system.Reachable)
    (waits : (system.threads.get thread).activity.Waits pursuit delay) (patient : pursuit.deadline = none)
    (there : pursuit.lock = 0)
    (shareless : pursuit.request = .exclusive → (system.handles thread).tally (Handle.sharesOn 0) = 0)
    (granted : ∀ id, (system.handles thread).get? id = none →
      Plan limit (pursuit.grants (system.handles thread) id).1 false owed size
        (rest (pursuit.grants (system.handles thread) id).2))
    (mine : move.thread = thread) (busy : ∀ operation, move ≠ .begin thread operation)
    (performed : system.perform now move = some stepped) :
    ∃ less, (less < size + delay ∨ less = size + delay ∧ system.Stuck thread) ∧
      Stands limit count (stepped.state.threads.get thread) (.answered rest stepped.reply) owed less := by
  have accounts := accounts_of_reachable reachable thread
  rcases settles_of_perform waits.pursues performed mine busy with ⟨result, attempt, rfl⟩
  rcases Section.settled_cases reachable attempt patient with grants | again | ⟨error, refused⟩
  · rcases result with ⟨lock, outcome⟩
    rcases state_of_grants system thread now pursuit lock grants with ⟨state, reply⟩
    have fresh := accounts.books.numbered system.nextHandle (Nat.le_refl _)
    rw [state, reply]
    refine ⟨size, ?_, .ready rfl (granted system.nextHandle fresh) (by simp)⟩
    cases waits <;> omega
  · have stuck := attempt.not_admitted (queues_of_reachable reachable)
    rcases result with ⟨lock, outcome⟩
    cases again
    refine ⟨size + 1, ?_, ?_⟩
    · cases waits with
      | asks asking => exact Or.inl (by omega)
      | parks parked => exact Or.inr ⟨rfl, pursuit, parked, stuck parked rfl⟩
    · simp only [settle, carryOn, get_threads_turnTo, if_true, threads_setLock]
      exact .pursuing (.parks rfl) patient there shareless granted
  · exfalso
    have asks := attempt.asks_of_refused refused
    cases attempt with
    | wake parked found => cases asks.symm.trans parked
    | expire parked found timed => cases asks.symm.trans parked
    | ask asking =>
        rcases Lock.ask_eq_refused_iff.mp refused with ⟨request, _, reads, _⟩
        have none : (system.locks.get 0).book.sharedHolds thread = 0 :=
          (accounts.books.shared 0).trans (shareless request)
        rw [there] at reads
        omega

open LockSystem in
/-- The upgrade of a sole shared handle goes on to ask for the exclusive lock. -/
theorem begin_upgrade (now : Instant) {id : HandleId}
    (state : system.threads.get thread = ⟨⟨[(id, .shared 0 .active false)]⟩, .idle⟩) :
    (system.begin now thread (.upgrade id)).reply = none ∧
      (system.begin now thread (.upgrade id)).state.threads.get thread
        = ⟨⟨[(id, .shared 0 .suspended false)]⟩,
            .asking { purpose := .upgrade id, lock := 0, request := .exclusive, since := now }⟩ := by
  have begun : system.begin now thread (.upgrade id)
      = system.upgrade now thread id (.shared 0 .active false) := by
    simp [LockSystem.begin, withHandle, handles, state, Handles.get?, Handles.isBorrowed, Handle.parent?]
  rw [begun]
  refine ⟨rfl, ?_⟩
  simp [upgrade, Handle.upgradeError?, carryOn, state, Handles.modify, Handle.withState]

open LockSystem in
/-- The drop of an active handle that is no child is done at once. -/
theorem begin_drop (now : Instant) {handles : Handles} {id : HandleId} {handle : Handle}
    (state : system.threads.get thread = ⟨handles, .idle⟩) (found : handles.get? id = some handle)
    (active : handle.isActive = true) (orphan : handle.parent? = none)
    (free : handles.isBorrowed id = false) :
    (system.begin now thread (.drop id)).reply = some .done ∧
      (system.begin now thread (.drop id)).state.threads.get thread
        = ⟨LockSystem.afterRelease handles id true, .idle⟩ := by
  have begun : system.begin now thread (.drop id) = system.release now thread id handle true := by
    simp [LockSystem.begin, withHandle, LockSystem.handles, state, found, free]
  rw [begun]
  cases handle with
  | shared place hold upgraded =>
      obtain rfl : hold = .active := by simpa [Handle.isActive] using active
      exact ⟨rfl, by simp [release, finish, state, LockSystem.afterRelease]⟩
  | exclusive place held parent =>
      obtain rfl : held = true := active
      obtain rfl : parent = none := orphan
      exact ⟨rfl, by simp [release, finish, state, LockSystem.afterRelease]⟩

open LockSystem in
/-- The drop of a child goes on to ask for the shared hold of its parent. -/
theorem begin_dropChild (now : Instant) {id child : HandleId} (apart : child ≠ id)
    (state : system.threads.get thread
      = ⟨⟨[(id, .shared 0 .suspended true), (child, .exclusive 0 true (some id))]⟩, .idle⟩) :
    (system.begin now thread (.drop child)).reply = none ∧
      (system.begin now thread (.drop child)).state.threads.get thread
        = ⟨⟨[(id, .shared 0 .suspended true), (child, .exclusive 0 false (some id))]⟩,
            .asking
              { purpose := .restore child id true, lock := 0, request := .shared, since := now }⟩ := by
  have other : (child == id) = false := by simpa using apart
  have begun : system.begin now thread (.drop child)
      = system.release now thread child (.exclusive 0 true (some id)) true := by
    simp [LockSystem.begin, withHandle, handles, state, Handles.get?, Handles.isBorrowed, Handle.parent?,
      List.lookup_cons, other, Ne.symm apart]
  rw [begun]
  refine ⟨rfl, ?_⟩
  simp [release, carryOn, state, Handles.modify, Handle.afterRelease, Ne.symm apart]

open LockSystem in
/-- A call of a disciplined program begins. -/
theorem Stands.begin (count : Nat) {operation : Operation} {stepped : Stepped} {handles : Handles}
    {seen : Bool} {owed size : Nat} {rest : Reply → Program Operation Reply Unit}
    (state : system.threads.get thread = ⟨handles, .idle⟩)
    (plan : Plan limit handles seen owed size (.ask operation rest))
    (performed : system.perform now (.begin thread operation) = some stepped) :
    ∃ less < size,
      Stands limit count (stepped.state.threads.get thread) (.answered rest stepped.reply) owed less := by
  rcases perform_begin_iff.mp performed with ⟨idle, rfl⟩
  cases plan with
  | @shared _ _ _ size _ plan =>
      refine ⟨size + 2, by omega, ?_⟩
      simp only [LockSystem.begin, inTime_none, carryOn, get_threads_turnTo, if_true, state]
      refine .pursuing (.asks rfl) rfl rfl (by rintro ⟨⟩) ?_
      intro id absent
      exact plan id absent
  | @exclusive _ _ size _ plan =>
      refine ⟨size + 2, by omega, ?_⟩
      simp only [LockSystem.begin, inTime_none, carryOn, get_threads_turnTo, if_true, state]
      refine .pursuing (.asks rfl) rfl rfl (fun _ => rfl) ?_
      intro id absent
      exact plan id
  | @upgrade id _ _ size _ plan =>
      refine ⟨size + 2, by omega, ?_⟩
      rcases begin_upgrade now state with ⟨silent, after⟩
      rw [after, silent]
      refine .pursuing (.asks rfl) rfl rfl (fun _ => rfl) ?_
      intro child absent
      have apart : child ≠ id := by
        rintro rfl
        simp [Handles.get?] at absent
      simpa [Pursuit.grants, Handles.modify, Handles.add, Handle.afterUpgrade] using plan child apart
  | @drop _ _ _ _ _ size _ found active orphan free plan =>
      rcases begin_drop now state found active orphan free with ⟨done, after⟩
      rw [after, done]
      exact ⟨size, by omega, .ready rfl plan (by simp)⟩
  | @dropChild id child _ _ size _ apart plan =>
      refine ⟨size + 2, by omega, ?_⟩
      rcases begin_dropChild now apart state with ⟨silent, after⟩
      rw [after, silent]
      refine .pursuing (.asks rfl) rfl rfl (by rintro ⟨⟩) ?_
      intro key _
      simpa [Pursuit.grants, Handles.modify, Handles.erase, Handle.withState, apart, Ne.symm apart]
        using plan

end Steps

/-- A thread is inside a bump: it is about to load the counter for it, or to store what comes next. -/
def Team.Bumps (team : Team) (thread : ThreadId) : Prop :=
  (∃ rest, team.work thread = .ready (bump.bind rest)) ∨
    ∃ value rest, team.work thread = .ready (.store counter value rest)

/-- A step of a thread that stands at some point of its plan. Either it stores nothing, and then it owes
no less than before if there is room; or it bumps the counter, under the exclusive lock. -/
inductive Advances (limit : Option Nat) (count : Nat) (team : Team) (choice : Team.Choice) (next : Team)
    (owed size : Nat) : Prop where
  | quiet {fewer less : Nat} (nothing : team.stores? choice = none) (cells : next.cells = team.cells)
      (le : fewer ≤ owed) (due : fewer = owed ∨ ¬Room limit count)
      (shorter : less < size ∨ less = size ∧ team.system.Stuck choice.thread)
      (stands : Stands limit count (next.system.threads.get choice.thread) (next.work choice.thread)
        fewer less)
  | bumps {handles : Handles} {less fewer : Nat}
      (stored : team.stores? choice = some (choice.thread, counter))
      (cell : next.cells.get counter = some ((count + 1 : Nat) : Int)) (room : Room limit count)
      (state : team.system.threads.get choice.thread = ⟨handles, .idle⟩) (excluding : Excluding handles)
      (due : owed = fewer + 1) (shorter : less < size)
      (stands : Stands limit (count + 1) (next.system.threads.get choice.thread)
        (next.work choice.thread) fewer less)

section Teams

variable {limit : Option Nat} {count owed size : Nat} {team next : Team} {choice : Team.Choice}

theorem Stands.step (reachable : team.system.Reachable)
    (cell : team.cells.get counter = some (count : Int))
    (stands : Stands limit count (team.system.threads.get choice.thread) (team.work choice.thread)
      owed size)
    (step : team.Step choice next) : Advances limit count team choice next owed size := by
  generalize known : team.work choice.thread = work at stands
  cases stands with
  | @ready handles seen _ _ program state plan room =>
      cases step with
      | begins work performed =>
          cases known.symm.trans work
          rcases Stands.begin count state plan performed with ⟨less, shorter, stands⟩
          exact .quiet rfl rfl (Nat.le_refl _) (Or.inl rfl) (Or.inl shorter)
            (by simpa [LockSystem.Move.thread] using stands)
      | goesOn work => cases known.symm.trans work
      | @loads thread _ rest work =>
          cases known.symm.trans work
          have unstored : team.stores? (.advance thread) = none := by simp [Team.stores?, work]
          cases plan with
          | look _ _ _ sure roomy due shorter full =>
              by_cases free : Room limit count
              · refine .quiet unstored rfl (Nat.le_refl _) (Or.inl rfl) (Or.inl (Nat.lt_succ_self _)) ?_
                simp only [Team.Choice.thread_advance, Team.work_turnTo_self, cell]
                exact .ready state (roomy count free) fun saw => ⟨sure saw, free⟩
              · refine .quiet unstored rfl due (Or.inr free) (Or.inl (Nat.lt_succ_of_le shorter)) ?_
                simp only [Team.Choice.thread_advance, Team.work_turnTo_self, cell]
                exact .ready state (full count free) (by rintro ⟨⟩)
          | @bump _ _ owed size rest excluding sure plan =>
              refine .quiet unstored rfl (Nat.le_refl _) (Or.inl rfl) (Or.inl (Nat.lt_succ_self _)) ?_
              simp only [Team.Choice.thread_advance, Team.work_turnTo_self, cell]
              refine .writing state excluding ?_ plan
              rcases sure with rfl | rfl
              · exact (room rfl).2
              · simp [Room]
      | stores work =>
          cases known.symm.trans work
          cases plan
      | marks work | passes work | sleeps work =>
          cases known.symm.trans work
          cases plan
  | @writing handles owed size rest state excluding room plan =>
      cases step with
      | begins work | goesOn work | loads work | marks work | passes work | sleeps work =>
          cases known.symm.trans work
      | @stores thread _ _ _ work =>
          cases known.symm.trans work
          refine .bumps (by simp [Team.stores?, work]) (by simp) room state excluding rfl
            (Nat.lt_succ_self _) ?_
          simp only [Team.Choice.thread_advance, Team.work_turnTo_self]
          exact .ready state plan (by rintro ⟨⟩)
  | @pursuing pursuit owed size delay rest waits patient there shareless granted =>
      cases step with
      | begins work | loads work | stores work | marks work | passes work | sleeps work =>
          cases known.symm.trans work
      | goesOn work busy performed =>
          cases known.symm.trans work
          rcases Stands.pursue count reachable waits patient there shareless granted rfl busy
            performed with ⟨less, shorter, stands⟩
          exact .quiet rfl rfl (Nat.le_refl _) (Or.inl rfl) shorter (by simpa using stands)

variable {state : LockSystem.Thread} {work : Work} {thread : ThreadId}

/-- A thread that does not have the exclusive lock knows nothing about the counter. -/
theorem Stands.recount {more : Nat} (stands : Stands limit count state work owed size)
    (apart : ∀ handles, state = ⟨handles, .idle⟩ → ¬Excluding handles) :
    Stands limit more state work owed size := by
  cases stands with
  | ready rests plan room =>
      exact .ready rests plan fun seen => absurd (room seen).1 (apart _ rests)
  | writing rests excluding room plan => exact absurd excluding (apart _ rests)
  | pursuing waits patient there shareless granted =>
      exact .pursuing waits patient there shareless granted

theorem Stands.of_finished (stands : Stands limit count state work owed size) (finished : work.Finished) :
    owed = 0 ∧ state = ⟨{}, .idle⟩ := by
  cases finished
  cases stands with
  | ready rests plan room =>
      cases plan with
      | finish => exact ⟨rfl, rests⟩

theorem Stands.lock_of_parked {pursuit : LockSystem.Pursuit}
    (stands : Stands limit count state work owed size) (parked : state.activity = .parked pursuit) :
    pursuit.lock = 0 := by
  cases stands with
  | ready rests | writing rests =>
      cases rests
      cases parked
  | pursuing waits patient there =>
      obtain rfl := waits.pursues.unique (Or.inr parked)
      exact there

/-- Only a thread that has the exclusive lock is at the point of a bump, or between its two steps. -/
theorem Stands.excluding_of_bumps (stands : Stands limit count (team.system.threads.get thread)
      (team.work thread) owed size) (bumps : team.Bumps thread) :
    ∃ handles, team.system.threads.get thread = ⟨handles, .idle⟩ ∧ Excluding handles := by
  generalize known : team.work thread = work at stands
  cases stands with
  | @ready handles _ _ _ program rests plan room =>
      rcases bumps with ⟨rest, begins⟩ | ⟨value, rest, stores⟩
      · have same : program = bump.bind rest := by
          cases known.symm.trans begins
          rfl
        cases plan with
        | bump excluding => exact ⟨handles, rests, excluding⟩
        | look _ _ _ sure roomy due shorter full =>
            -- What is loaded for a look is never stored.
            cases same
            by_cases free : Room limit 0
            · cases roomy 0 free
            · cases full 0 free
        | finish | shared | exclusive | upgrade | drop | dropChild => cases same
      · cases known.symm.trans stores
        cases plan
  | @writing handles _ _ _ rests excluding => exact ⟨handles, rests, excluding⟩
  | pursuing =>
      rcases bumps with ⟨rest, begins⟩ | ⟨value, rest, stores⟩
      · cases known.symm.trans begins
      · cases known.symm.trans stores

/-- A thread that has not finished can take a step, if only to wake up. -/
theorem Stands.exists_choice (reachable : team.system.Reachable)
    (stands : Stands limit count (team.system.threads.get thread) (team.work thread) owed size)
    (unfinished : ¬(team.work thread).Finished) :
    ∃ choice : Team.Choice, choice.thread = thread ∧ (team.perform choice).isSome = true := by
  generalize known : team.work thread = work at stands
  rw [known] at unfinished
  cases stands with
  | @ready handles _ _ _ program rests plan room =>
      have asks {operation : Operation} {rest : Reply → Program Operation Reply Unit}
          (asked : program = .ask operation rest) :
          (team.perform (.turn 0 (.begin thread operation))).isSome = true := by
        simp [Team.perform, LockSystem.Move.thread, known, asked, LockSystem.perform,
          LockSystem.activity, rests]
      have loads {rest : Option Int → Program Operation Reply Unit}
          (loaded : program = .load counter rest) : (team.perform (.advance thread)).isSome = true := by
        simp [Team.perform, known, loaded]
      cases plan with
      | finish => exact absurd rfl unfinished
      | shared | exclusive | upgrade | drop | dropChild => exact ⟨_, rfl, asks rfl⟩
      | look | bump => exact ⟨_, rfl, loads rfl⟩
  | writing => exact ⟨.advance thread, rfl, by simp [Team.perform, known]⟩
  | pursuing waits =>
      cases waits with
      | asks asking =>
          refine ⟨.turn 0 (.proceed thread), rfl, ?_⟩
          simp [Team.perform, LockSystem.Move.thread, known, (LockSystem.Advance.ask asking).performs]
      | parks parked =>
          rcases (LockSystem.queues_of_reachable reachable).waiter_of_parked parked with
            ⟨waiter, _, found, _⟩
          refine ⟨.turn 0 (.wake thread), rfl, ?_⟩
          simp [Team.perform, LockSystem.Move.thread, known,
            (LockSystem.Advance.wake parked found).performs]

end Teams

end Coordination
