import Coordination.Proofs.Lock.Upgrading

/-!
# Double-checked locking

What a call of `sharedUpgradable` does, whatever the other threads do, and whatever its callbacks do but
for a wait for a condition of the lock (`Upgradable.course_of_runs`). It takes a shared hold and looks at
the data. A value that is accepted makes it upgrade, which is refused exactly if the thread then has
other shared holds and not the exclusive lock. Then it looks again and writes, and no other thread has
any hold meanwhile.

The actions of a run tell all of its steps, and they are split along the parts of the call, so that each
part happens once and in its place.
-/

namespace Coordination.Section

open LockSystem (Operation Reply Stepped)

variable {β γ ε α : Type}

/-- A part of a run that has not ended, with something to follow. -/
def Config.Within (config : Config γ) (inner : Config β) : Prop :=
  inner.task.Underway ∧ ∃ next, config = inner.bind next

/-- What a look at the data comes to. -/
inductive Verdict (ε α : Type) where
  | ends (ending : Ending ε α)
  | accepts (value : α)

/-- What follows on a look at the data. -/
def Verdict.resume (next : α → Program Call Reply (Ending ε α))
    (after : Ending ε α → Program Call Reply γ) : Verdict ε α → Program Call Reply γ
  | .ends ending => after ending
  | .accepts value => (next value).bind after

section Looking

variable (thread : ThreadId) (lock : LockId) (holds : LockSystem → Prop)
  (check : Program Operation Reply (Ending ε α))
  (accept : α → Program Operation Reply (Ending Empty Bool)) (start : Place)

/-- A whole look at the data. -/
inductive Look : List Action → Verdict ε α → Place → Prop where
  | failed {actions : List Action} {error : ε} {final : Place}
      (checks : Evaluates thread lock holds start (asCallback check) actions (.failed error) final) :
      Look actions (.ends (.failed error)) final
  | panicked {actions : List Action} {message : String} {final : Place}
      (checks : Evaluates thread lock holds start (asCallback check) actions (.panicked message) final) :
      Look actions (.ends (.panicked message)) final
  | rejected {before after : List Action} {value : α} {middle final : Place}
      (checks : Evaluates thread lock holds start (asCallback check) before (.value value) middle)
      (decides : Evaluates thread lock holds middle (asCallback (accept value)) after (.value false)
        final) : Look (before ++ after) (.ends (.value value)) final
  | undecided {before after : List Action} {value : α} {message : String} {middle final : Place}
      (checks : Evaluates thread lock holds start (asCallback check) before (.value value) middle)
      (decides : Evaluates thread lock holds middle (asCallback (accept value)) after
        (.panicked message) final) : Look (before ++ after) (.ends (.panicked message)) final
  | accepted {before after : List Action} {value : α} {middle final : Place}
      (checks : Evaluates thread lock holds start (asCallback check) before (.value value) middle)
      (decides : Evaluates thread lock holds middle (asCallback (accept value)) after (.value true)
        final) : Look (before ++ after) (.accepts value) final

/-- A part of a look at the data. -/
inductive Looking : List Action → Config γ → Prop where
  | checking {actions : List Action} {inner : Config (Ending ε α)} {config : Config γ}
      (checks : Runs thread lock holds ⟨start, .ready (asCallback check)⟩ actions inner)
      (within : config.Within inner) : Looking actions config
  | deciding {before after : List Action} {value : α} {middle : Place}
      {inner : Config (Ending Empty Bool)} {config : Config γ}
      (checks : Evaluates thread lock holds start (asCallback check) before (.value value) middle)
      (decides : Runs thread lock holds ⟨middle, .ready (asCallback (accept value))⟩ after inner)
      (within : config.Within inner) : Looking (before ++ after) config

variable {thread lock holds check accept start}

theorem Looking.underway {actions : List Action} {config : Config γ}
    (looking : Looking thread lock holds check accept start actions config) :
    config.task.Underway := by
  cases looking with
  | checking _ within | deciding _ _ within =>
      rcases within with ⟨underway, next, rfl⟩
      exact underway.bind next

/-- A section that looks at the data keeps its handle. -/
theorem Runs.of_checked {key : HandleId} {handle : Handle} {actions : List Action}
    {next : α → Program Call Reply (Ending ε α)} {after : Ending ε α → Program Call Reply γ}
    {config : Config γ} (retained : Retained thread lock key handle start)
    (active : handle.isActive = true)
    (held : ∀ {place : Place}, Retained thread lock key handle place → holds place.system)
    (runs : Runs thread lock Anyhow
      ⟨start, .ready ((checked (asCallback check) (fun value => asCallback (accept value)) next).bind
        after)⟩ actions config) :
    Looking thread lock holds check accept start actions config ∨
      ∃ before later verdict middle, actions = before ++ later ∧
        Look thread lock holds check accept start before verdict middle ∧
        Retained thread lock key handle middle ∧
        Runs thread lock Anyhow ⟨middle, .ready (verdict.resume next after)⟩ later config := by
  change Runs _ _ _ ⟨start, .ready (((asCallback check).bind _).bind after)⟩ _ _ at runs
  rw [Program.bind_assoc] at runs
  rcases runs.of_bind with ⟨inner, first, underway, rfl⟩ | ⟨before, later, result, middle, rfl, first, rest⟩
  · exact Or.inl (.checking (retained.runs active held first).1 ⟨underway, _, rfl⟩)
  · have ⟨checks, kept⟩ := retained.runs active held first
    cases result with
    | failed error => exact Or.inr ⟨before, later, _, middle, rfl, .failed checks, kept, rest⟩
    | panicked message => exact Or.inr ⟨before, later, _, middle, rfl, .panicked checks, kept, rest⟩
    | value value =>
        change Runs _ _ _ ⟨middle, .ready (((asCallback (accept value)).bind _).bind after)⟩ _ _ at rest
        rw [Program.bind_assoc] at rest
        rcases rest.of_bind with
          ⟨inner, second, underway, rfl⟩ | ⟨during, later, result, final, rfl, second, rest⟩
        · exact Or.inl (.deciding checks (kept.runs active held second).1 ⟨underway, _, rfl⟩)
        · have ⟨decides, kept⟩ := kept.runs active held second
          rw [← List.append_assoc]
          cases result with
          | failed error => cases error
          | panicked message =>
              exact Or.inr ⟨_, later, _, final, rfl, .undecided checks decides, kept, rest⟩
          | value accepted =>
              cases accepted with
              | false => exact Or.inr ⟨_, later, _, final, rfl, .rejected checks decides, kept, rest⟩
              | true => exact Or.inr ⟨_, later, _, final, rfl, .accepted checks decides, kept, rest⟩

end Looking

section Leaving

/-- A section only drops its handles before it ends. -/
inductive Leaves (ending : Ending ε α) : Program Call Reply (Ending ε α) → Prop where
  | finish : Leaves ending (.finish ending)
  | drop {id : HandleId} {next : Reply → Program Call Reply (Ending ε α)}
      (leaves : ∀ reply, Leaves ending (next reply)) :
      Leaves ending (.ask (.own (.drop id)) next)

/-- A task is what is left of dropping handles. -/
def Task.Leaves (ending : Ending ε α) : Task (Ending ε α) → Prop
  | .ready program => Section.Leaves ending program
  | .pending _ next => ∀ reply, Section.Leaves ending (next reply)

variable {thread : ThreadId} {lock : LockId} {ending : Ending ε α}

theorem Task.leaves_answered {own : Bool} {next : Reply → Program Call Reply (Ending ε α)}
    (leaves : ∀ reply, Section.Leaves ending (next reply)) (reply : Option Reply) :
    (Task.answered own next reply).Leaves ending := by
  cases reply with
  | some reply => exact leaves reply
  | none => exact leaves

theorem Step.leaves {config next : Config (Ending ε α)} {action : Action}
    (leaves : config.task.Leaves ending) (step : Step thread lock config action next) :
    next.task.Leaves ending := by
  cases step with
  | other => exact leaves
  | begin =>
      cases leaves with
      | drop leaves => exact Task.leaves_answered leaves _
  | goOn => exact Task.leaves_answered leaves _
  | load | store | mark | pass | sleep => cases leaves

theorem leaves_drop {id : HandleId} {after : Ending ε α → Program Call Reply (Ending ε α)}
    (leaves : ∀ ending, Leaves ending (after ending)) (ending : Ending ε α) :
    Leaves ending (((LockCalls.operate (.drop id)).bind fun _ => .finish ending).bind after) :=
  .drop fun _ => leaves ending

end Leaving

/-- A call of `sharedUpgradable` by a thread. -/
structure Upgradable (ε α : Type) where
  thread : ThreadId
  lock : LockId
  check : Program Operation Reply (Ending ε α)
  accept : α → Program Operation Reply (Ending Empty Bool)
  write : α → Program Operation Reply (Ending ε α)
  start : LockSystem

namespace Upgradable

section Parts

variable (call : Upgradable ε α)

def Acquired (actions : List Action) (shared : HandleId) (place : Place) : Prop :=
  Evaluates call.thread call.lock Anyhow ⟨call.start, []⟩
    (LockCalls.operate (.shared call.lock none)) actions (.handle shared) place

def Looks (holds : ThreadId → LockId → LockSystem → Prop) (place : Place) (actions : List Action)
    (verdict : Verdict ε α) (final : Place) : Prop :=
  Look call.thread call.lock (holds call.thread call.lock) call.check call.accept place actions verdict
    final

/-- The value that was seen under the shared hold has been accepted. -/
inductive Accepted (shared : HandleId) : List Action → Place → Prop where
  | intro {before after : List Action} {value : α} {first place : Place}
      (acquired : call.Acquired before shared first)
      (looks : call.Looks Shares first after (.accepts value) place) :
      Accepted shared (before ++ after) place

/-- The hold has been upgraded, which the thread's other holds permitted. -/
inductive Upgraded : List Action → Place → Prop where
  | intro {before after : List Action} {shared child : HandleId} {second place : Place}
      (accepted : call.Accepted shared before second)
      (permitted : ∀ others, ¬Refusable call.thread call.lock others second.system)
      (upgrades : Evaluates call.thread call.lock Anyhow second (LockCalls.operate (.upgrade shared))
        after (.handle child) place) : Upgraded (before ++ after) place

/-- The value that was seen under the exclusive lock has been accepted. -/
inductive Reaccepted (value : α) : List Action → Place → Prop where
  | intro {before after : List Action} {third place : Place} (upgraded : call.Upgraded before third)
      (looks : call.Looks Excludes third after (.accepts value) place) :
      Reaccepted value (before ++ after) place

variable [OfLockError ε]

def program : Program Call Reply (Ending ε α) :=
  sharedUpgradable call.lock (asCallback call.check) (fun value => asCallback (call.accept value))
    fun value => asCallback (call.write value)

/-- How the call has ended, but for its handles. -/
inductive Outcome : List Action → Ending ε α → Place → Prop where
  | first {before after : List Action} {shared : HandleId} {ending : Ending ε α} {place final : Place}
      (acquired : call.Acquired before shared place)
      (looks : call.Looks Shares place after (.ends ending) final) :
      Outcome (before ++ after) ending final
  | refused {before after : List Action} {shared : HandleId} {others : Nat} {place final : Place}
      (accepted : call.Accepted shared before place)
      (refusable : Refusable call.thread call.lock others place.system)
      (upgrades : Evaluates call.thread call.lock Anyhow place (LockCalls.operate (.upgrade shared))
        after (.refused (.upgradeNotPermitted others)) final) :
      Outcome (before ++ after) (.failed (OfLockError.ofLockError (.upgradeNotPermitted others))) final
  | second {before after : List Action} {ending : Ending ε α} {place final : Place}
      (upgraded : call.Upgraded before place)
      (looks : call.Looks Excludes place after (.ends ending) final) :
      Outcome (before ++ after) ending final
  | written {before after : List Action} {value : α} {ending : Ending ε α} {place final : Place}
      (reaccepted : call.Reaccepted value before place)
      (writes : Evaluates call.thread call.lock (Excludes call.thread call.lock) place
        (asCallback (call.write value)) after ending final) :
      Outcome (before ++ after) ending final

/-- How far the call has come. -/
inductive Course : List Action → Config (Ending ε α) → Prop where
  | acquiring {actions : List Action} {inner : Config Reply} {config : Config (Ending ε α)}
      (runs : Runs call.thread call.lock Anyhow
        ⟨⟨call.start, []⟩, .ready (LockCalls.operate (.shared call.lock none))⟩ actions inner)
      (within : config.Within inner) : Course actions config
  | looking {before after : List Action} {shared : HandleId} {place : Place}
      {config : Config (Ending ε α)} (acquired : call.Acquired before shared place)
      (looks : Looking call.thread call.lock (Shares call.thread call.lock) call.check call.accept place
        after config) : Course (before ++ after) config
  | upgrading {before after : List Action} {shared : HandleId} {place : Place} {inner : Config Reply}
      {config : Config (Ending ε α)} (accepted : call.Accepted shared before place)
      (runs : Runs call.thread call.lock Anyhow
        ⟨place, .ready (LockCalls.operate (.upgrade shared))⟩ after inner)
      (within : config.Within inner) : Course (before ++ after) config
  | lookingAgain {before after : List Action} {place : Place} {config : Config (Ending ε α)}
      (upgraded : call.Upgraded before place)
      (looks : Looking call.thread call.lock (Excludes call.thread call.lock) call.check call.accept
        place after config) : Course (before ++ after) config
  | writing {before after : List Action} {value : α} {place : Place} {inner : Config (Ending ε α)}
      {config : Config (Ending ε α)} (reaccepted : call.Reaccepted value before place)
      (writes : Runs call.thread call.lock (Excludes call.thread call.lock)
        ⟨place, .ready (asCallback (call.write value))⟩ after inner)
      (within : config.Within inner) : Course (before ++ after) config
  | leaving {before after : List Action} {ending : Ending ε α} {place : Place}
      {leave : Program Call Reply (Ending ε α)} {config : Config (Ending ε α)}
      (outcome : call.Outcome before ending place) (leaves : Leaves ending leave)
      (runs : Runs call.thread call.lock Anyhow ⟨place, .ready leave⟩ after config) :
      Course (before ++ after) config

end Parts

section Courses

variable [OfLockError ε] {call : Upgradable ε α} {before later : List Action} {place : Place}
  {config : Config (Ending ε α)} {after : Ending ε α → Program Call Reply (Ending ε α)}

theorem Course.of_reaccepted {value : α} {child : HandleId} {parent : Option HandleId}
    (reaccepted : call.Reaccepted value before place)
    (retained : Retained call.thread call.lock child (.exclusive call.lock true parent) place)
    (leaves : ∀ ending, Leaves ending (after ending))
    (runs : Runs call.thread call.lock Anyhow
      ⟨place, .ready ((asCallback (call.write value)).bind after)⟩ later config) :
    call.Course (before ++ later) config := by
  rcases runs.of_bind with
    ⟨inner, first, underway, rfl⟩ | ⟨during, rest, ending, final, rfl, first, second⟩
  · exact .writing reaccepted (retained.runs rfl Retained.excludes first).1 ⟨underway, _, rfl⟩
  · have writes := (retained.runs rfl Retained.excludes first).1
    rw [← List.append_assoc]
    exact .leaving (.written reaccepted writes) (leaves ending) second

theorem Course.of_upgraded {child : HandleId} {parent : Option HandleId}
    (upgraded : call.Upgraded before place)
    (retained : Retained call.thread call.lock child (.exclusive call.lock true parent) place)
    (leaves : ∀ ending, Leaves ending (after ending))
    (runs : Runs call.thread call.lock Anyhow
      ⟨place, .ready ((checked (asCallback call.check) (fun value => asCallback (call.accept value))
        fun value => asCallback (call.write value)).bind after)⟩ later config) :
    call.Course (before ++ later) config := by
  rcases Runs.of_checked retained rfl Retained.excludes runs with
    looking | ⟨during, rest, verdict, final, rfl, looks, kept, second⟩
  · exact .lookingAgain upgraded looking
  · rw [← List.append_assoc]
    cases verdict with
    | ends ending => exact .leaving (.second upgraded looks) (leaves ending) second
    | accepts value => exact .of_reaccepted (.intro upgraded looks) kept leaves second

theorem Course.of_accepted {shared : HandleId} (accepted : call.Accepted shared before place)
    (retained : Retained call.thread call.lock shared (.shared call.lock .active false) place)
    (leaves : ∀ ending, Leaves ending (after ending))
    (runs : Runs call.thread call.lock Anyhow
      ⟨place, .ready ((taking (.upgrade shared) fun _ => checked (asCallback call.check)
        (fun value => asCallback (call.accept value))
        fun value => asCallback (call.write value)).bind after)⟩ later config) :
    call.Course (before ++ later) config := by
  change Runs _ _ _ ⟨place, .ready (((LockCalls.operate (.upgrade shared)).bind _).bind after)⟩ _ _
    at runs
  rw [Program.bind_assoc] at runs
  rcases runs.of_bind with
    ⟨inner, first, underway, rfl⟩ | ⟨during, rest, reply, final, rfl, upgrades, second⟩
  · exact .upgrading accepted first ⟨underway, _, rfl⟩
  · rw [← List.append_assoc]
    rcases held_of_upgrade retained upgrades with
      ⟨child, rfl, kept, permitted⟩ | ⟨others, rfl, refusable⟩
    · change Runs _ _ _ ⟨final, .ready (((checked _ _ _).bind _).bind after)⟩ _ _ at second
      rw [Program.bind_assoc] at second
      exact .of_upgraded (.intro accepted permitted upgrades) kept (leaves_drop leaves) second
    · exact .leaving (.refused accepted refusable upgrades) (leaves _) second

theorem Course.of_acquired {shared : HandleId} (acquired : call.Acquired before shared place)
    (retained : Retained call.thread call.lock shared (.shared call.lock .active false) place)
    (leaves : ∀ ending, Leaves ending (after ending))
    (runs : Runs call.thread call.lock Anyhow
      ⟨place, .ready ((checked (asCallback call.check) (fun value => asCallback (call.accept value))
        fun _ => taking (.upgrade shared) fun _ => checked (asCallback call.check)
          (fun value => asCallback (call.accept value))
          fun value => asCallback (call.write value)).bind after)⟩ later config) :
    call.Course (before ++ later) config := by
  rcases Runs.of_checked retained rfl Retained.shares runs with
    looking | ⟨during, rest, verdict, final, rfl, looks, kept, second⟩
  · exact .looking acquired looking
  · rw [← List.append_assoc]
    cases verdict with
    | ends ending => exact .leaving (.first acquired looks) (leaves ending) second
    | accepts value => exact .of_accepted (.intro acquired looks) kept leaves second

theorem Course.of_runs {actions : List Action} (reachable : call.start.Reachable)
    (runs : Runs call.thread call.lock Anyhow ⟨⟨call.start, []⟩, .ready call.program⟩ actions config) :
    call.Course actions config := by
  change Runs _ _ _
    ⟨_, .ready ((LockCalls.operate (.shared call.lock none)).bind _)⟩ _ _ at runs
  rcases runs.of_bind with
    ⟨inner, first, underway, rfl⟩ | ⟨during, rest, reply, place, rfl, acquires, second⟩
  · exact .acquiring first ⟨underway, _, rfl⟩
  · rcases held_of_shared reachable acquires with ⟨shared, rfl, kept⟩
    exact .of_acquired acquires kept (fun _ => .drop fun _ => .finish) second

/-- A call that has ended has had its outcome. -/
theorem Course.outcome {actions : List Action} {ending : Ending ε α}
    (course : call.Course actions config) (ended : config.task = .ready (.finish ending)) :
    ∃ before after final, actions = before ++ after ∧ call.Outcome before ending final := by
  cases course with
  | acquiring _ within | upgrading _ _ within | writing _ _ within =>
      rcases within with ⟨underway, next, rfl⟩
      exact absurd ended (underway.bind next ending)
  | looking _ looking | lookingAgain _ looking => exact absurd ended (looking.underway ending)
  | @leaving before after also final leave config outcome leaves runs =>
      have left := runs.kept (fun config => config.task.Leaves also) leaves Step.leaves
      rw [ended] at left
      cases left
      exact ⟨before, after, final, rfl, outcome⟩

/-- Double-checked locking: at any time a call is at one of its parts, which come one after the other,
and it has looked at the data and written under the holds that it should have. It ends with what the
parts say. -/
theorem course_of_runs {actions : List Action} (reachable : call.start.Reachable)
    (runs : Runs call.thread call.lock Anyhow ⟨⟨call.start, []⟩, .ready call.program⟩ actions config) :
    call.Course actions config ∧ ∀ ending, config.task = .ready (.finish ending) →
      ∃ before after final, actions = before ++ after ∧ call.Outcome before ending final := by
  have course := Course.of_runs reachable runs
  exact ⟨course, fun ending ended => course.outcome ended⟩

/-- A call that stores the number after the one that it has loaded. -/
def increment : Upgradable LockError Int where
  thread := 0
  lock := 0
  check := .load "count" fun value => .finish (.value (value.getD 0))
  accept _ := .finish (.value true)
  write value := .store "count" (value + 1) (.finish (.value (value + 1)))
  start := {}

/-- Another thread stores a number while the call upgrades. -/
def interrupted : List Action :=
  [.turn 0 (.begin 0 (.shared 0 none)), .turn 0 (.proceed 0), .load (some 7),
    .turn 0 (.begin 0 (.upgrade 0)), .turn 0 (.proceed 0), .load (some 8), .pass,
    .turn 0 (.begin 0 (.drop 1)), .turn 0 (.proceed 0), .turn 0 (.begin 0 (.drop 0))]

theorem course_of_interrupted :
    increment.start.Reachable ∧
      ∃ final, Runs 0 0 Anyhow ⟨⟨increment.start, []⟩, .ready increment.program⟩ interrupted
          ⟨final, .ready (.finish (.value 9))⟩ ∧
        increment.Course interrupted ⟨final, .ready (.finish (.value 9))⟩ ∧
        ∃ before after final, interrupted = before ++ after ∧
          increment.Outcome before (.value 9) final := by
  have reachable : increment.start.Reachable := ⟨[], LockSystem.run_empty⟩
  have begins : Runs 0 0 Anyhow ⟨⟨increment.start, []⟩, .ready increment.program⟩ [] _ := .here trivial
  have acquired := (begins.step
    (show Step 0 0 _ (.turn 0 (.begin 0 (.shared 0 none))) _ from .begin trivial rfl) trivial).step
    (show Step 0 0 _ (.turn 0 (.proceed 0)) _ from .goOn rfl (by simp) rfl) trivial
  have accepted := acquired.step (.load (some 7)) trivial
  have upgraded := (accepted.step
    (show Step 0 0 _ (.turn 0 (.begin 0 (.upgrade 0))) _ from .begin trivial rfl) trivial).step
    (show Step 0 0 _ (.turn 0 (.proceed 0)) _ from .goOn rfl (by simp) rfl) trivial
  have written := (upgraded.step (.load (some 8)) trivial).step .store trivial
  have restored := (written.step
    (show Step 0 0 _ (.turn 0 (.begin 0 (.drop 1))) _ from .begin trivial rfl) trivial).step
    (show Step 0 0 _ (.turn 0 (.proceed 0)) _ from .goOn rfl (by simp) rfl) trivial
  have left := restored.step
    (show Step 0 0 _ (.turn 0 (.begin 0 (.drop 0))) _ from .begin trivial rfl) trivial
  have ended : Runs 0 0 Anyhow ⟨⟨increment.start, []⟩, .ready increment.program⟩ interrupted
      ⟨_, .ready (.finish (.value 9))⟩ := left
  have ⟨course, outcome⟩ := course_of_runs reachable ended
  exact ⟨reachable, _, ended, course, outcome _ rfl⟩

end Courses

end Upgradable

end Coordination.Section
