import Coordination.Proofs.Lock.Calls

/-!
# Sections give back what they take

Programs nest sections, scoped handles, upgrades and waits for conditions in any way, and any part of
them may fail or panic (`Bracketed`). Whatever the other threads do, the handles of a thread stand after
such a program as before, except those that it has taken for itself and may release early (`Keeps`).
For a thread that is not in the middle of an operation this settles its holds
(`counts_of_standing`), so a section ends with the holds that it began with.

The rest follows from what decides on a request. Next to threads that have no hold and do not wait, a
request is never kept waiting (`Lock.ask_ne_parked`). And a section whose request is refused goes on in
the same way whatever it was to run under the hold (`Evaluates.congr_bind`).
-/

namespace Coordination

namespace Handles

variable {handles before after : Handles} {lock : LockId} {id : HandleId}

/-- The numbers of the handles of some kind. -/
def numbers (kind : Handle → Bool) (handles : Handles) : List HandleId :=
  (handles.rows.filter fun row => kind row.2).map Prod.fst

theorem mem_numbers_iff (keyed : handles.Keyed) (kind : Handle → Bool) :
    id ∈ handles.numbers kind ↔ (handles.get? id).any kind = true := by
  simp only [numbers, List.mem_map, List.mem_filter, Option.any_eq_true]
  constructor
  · rintro ⟨⟨key, handle⟩, ⟨mem, holds⟩, rfl⟩
    exact ⟨handle, get?_of_mem keyed mem, holds⟩
  · rintro ⟨handle, found, holds⟩
    exact ⟨(id, handle), ⟨mem_of_get? found, holds⟩, rfl⟩

theorem nodup_numbers (keyed : handles.Keyed) (kind : Handle → Bool) :
    (handles.numbers kind).Nodup :=
  keyed.sublist (List.filter_sublist.map _)

theorem length_numbers (kind : Handle → Bool) : (handles.numbers kind).length = handles.tally kind := by
  rw [numbers, List.length_map, tally, List.countP_eq_length_filter]

theorem tally_congr (keyed : before.Keyed) (keyed' : after.Keyed) {kind : Handle → Bool}
    (same : ∀ id, (after.get? id).any kind = (before.get? id).any kind) :
    after.tally kind = before.tally kind := by
  rw [← length_numbers, ← length_numbers]
  apply List.Perm.length_eq
  rw [List.perm_ext_iff_of_nodup (nodup_numbers keyed' kind) (nodup_numbers keyed kind)]
  intro id
  rw [mem_numbers_iff keyed', mem_numbers_iff keyed, same]

theorem tally_succ (keyed : before.Keyed) (keyed' : after.Keyed) {kind : Handle → Bool}
    (absent : before.get? id = none) (there : (after.get? id).any kind = true)
    (same : ∀ key, key ≠ id → (after.get? key).any kind = (before.get? key).any kind) :
    after.tally kind = before.tally kind + 1 := by
  rw [← length_numbers, ← length_numbers, ← List.length_cons (a := id)]
  have missing : id ∉ before.numbers kind := by
    rw [mem_numbers_iff keyed, absent]
    simp
  apply List.Perm.length_eq
  rw [List.perm_ext_iff_of_nodup (nodup_numbers keyed' kind)
    (List.nodup_cons.mpr ⟨missing, nodup_numbers keyed kind⟩)]
  intro key
  rw [List.mem_cons, mem_numbers_iff keyed', mem_numbers_iff keyed]
  by_cases here : key = id
  · subst here
    simp [there]
  · simp [here, same key here]

theorem excludesOn_of_standing : (handles.get? id).any (Handle.excludesOn lock)
    = (handles.standing id).any (Handle.excludesOn lock) := by
  cases found : handles.get? id <;> simp [standing, found]

/-- A handle stands for a shared hold unless it has been released, or has a child that is held. -/
theorem sharesOn_iff (coherent : handles.Coherent none) :
    (handles.get? id).any (Handle.sharesOn lock) = true ↔
      handles.standing id = some (.shared lock .active true) ∧
        ∀ child place, handles.standing child ≠ some (.exclusive place true (some id)) := by
  have exclusive {child : HandleId} {place : LockId} :
      handles.standing child = some (.exclusive place true (some id)) ↔
        handles.get? child = some (.exclusive place true (some id)) := by
    cases found : handles.get? child with
    | none => simp [standing, found]
    | some handle => cases handle <;> simp [standing, found, Handle.standing]
  simp only [ne_eq, exclusive, Option.any_eq_true]
  constructor
  · rintro ⟨handle, found, shares⟩
    cases handle with
    | exclusive place held parent => cases shares
    | shared place state upgraded =>
        simp only [Handle.sharesOn, Bool.and_eq_true, decide_eq_true_eq] at shares
        rcases shares with ⟨rfl, rfl⟩
        refine ⟨by simp [standing, found, Handle.standing], ?_⟩
        intro child childPlace childFound
        rcases coherent.parented childFound with ⟨state, parentFound, suspended⟩
        cases found.symm.trans parentFound
        cases suspended rfl
  · rintro ⟨stands, childless⟩
    rcases Option.map_eq_some_iff.mp stands with ⟨handle, found, alike⟩
    cases handle with
    | exclusive place held parent => cases alike
    | shared place state upgraded =>
        refine ⟨_, found, ?_⟩
        cases state with
        | active =>
            cases alike
            simp [Handle.sharesOn]
        | released => cases alike
        | suspended =>
            rcases coherent.suspended found with turned | ⟨child, childPlace, childFound⟩
            · cases turned
            · exact absurd childFound (childless child childPlace)

end Handles

namespace Lock

variable {lock : Lock} {thread : ThreadId} {request : Request}

theorem book_eq_of_holdless (sound : lock.Sound) (empty : lock.seats = [])
    (holdless : ∀ thread, lock.book.Holdless thread) : lock.book = {} := by
  refine Book.eq_empty_of_holdless sound.book holdless ?_
  rw [sound.queued, empty]
  rfl

/-- Nobody is kept waiting where no other thread has a hold and nobody waits. -/
theorem ask_ne_parked (sound : lock.Sound) (empty : lock.seats = [])
    (others : ∀ other, other ≠ thread → lock.book.Holdless other)
    (owed : ∀ holds, request = .resume holds → lock.book.Holdless thread) (deadline : Option Instant) :
    (lock.ask thread request deadline).2 ≠ .parked := by
  have free (own : lock.book.Holdless thread) : lock.book = {} := by
    apply book_eq_of_holdless sound empty
    intro other
    by_cases same : other = thread
    · exact same ▸ own
    · exact others other same
  cases request with
  | shared =>
      have admitted : lock.book.admits thread .shared = true := by
        by_cases own : lock.book.Holdless thread
        · rw [free own]
          rfl
        · exact Book.canRead_of_not_holdless sound.book own
      simp [ask, attempt, admitted]
  | exclusive =>
      simp only [ask]
      split
      · simp
      · rename_i writer
        split
        · simp
        · rename_i unread
          have own : lock.book.Holdless thread := ⟨by omega, by simp [Book.exclusiveHolds, writer]⟩
          have admitted : lock.book.enqueue.admits thread .exclusive = true := by
            rw [free own]
            rfl
          simp [attempt, admitted]
  | resume holds =>
      have admitted : lock.book.enqueue.admits thread (.resume holds) = true := by
        rw [free (owed holds rfl)]
        rfl
      simp [ask, attempt, admitted]

end Lock

namespace LockSystem

variable {system : LockSystem} {thread : ThreadId} {lock : LockId} {change : Change}

/-- No other thread has a hold on the lock or waits for one. -/
def Alone (thread : ThreadId) (lock : LockId) (system : LockSystem) : Prop :=
  ∀ other, other ≠ thread → (system.locks.get lock).book.Holdless other ∧
    ∀ pursuit, system.activity other = .parked pursuit → pursuit.lock ≠ lock

/-- A thread that nobody else keeps from a lock does not begin to wait for it. -/
theorem Transition.lock_ne_of_parked (transition : Transition system thread change)
    (queues : system.Queues) (alone : Alone thread lock system)
    (before : ∀ pursuit, system.activity thread = .parked pursuit → pursuit.lock ≠ lock) :
    ∀ pursuit, change.thread.activity = .parked pursuit → pursuit.lock ≠ lock := by
  intro pursuit parks
  cases transition with
  | turn after reply _ plain => exact absurd parks (plain.ne_parked pursuit)
  | stay waiting => exact before pursuit parks
  | park attempt =>
      cases parks
      rintro rfl
      have empty : (system.locks.get pursuit.lock).seats = [] := by
        rw [List.eq_nil_iff_forall_not_mem]
        intro seat mem
        rcases (queues.seated _ seat).mp mem with ⟨other, parked, place, _⟩
        by_cases own : seat.thread = thread
        · exact before other (own ▸ parked) place
        · exact (alone _ own).2 other parked place
      generalize kept : (_, Lock.Outcome.parked) = result at attempt
      cases attempt with
      | ask asking =>
          refine Lock.ask_ne_parked (queues.sound pursuit.lock) empty (fun other apart =>
            (alone other apart).1) (fun holds resumes => ?_) pursuit.deadline (congrArg Prod.snd kept).symm
          exact (queues.owing thread pursuit.lock holds (by simp [asking, Activity.owes, resumes])).2
      | wake parked | expire parked => exact before pursuit parked rfl
  | _ => cases parks

end LockSystem

namespace Section

open LockSystem (Operation Reply Stepped Alone)
open Handles (Kept Gains)

variable {thread : ThreadId} {lock : LockId} {holds : LockSystem → Prop} {actions : List Action}
  {own : List HandleId} {α β γ ε : Type}

/-- A program that uses no locks. -/
inductive Silent : Program Call Reply β → Prop where
  | finish (result : β) : Silent (.finish result)
  | load (cell : String) {next : Option Int → Program Call Reply β}
      (rest : ∀ value, Silent (next value)) : Silent (.load cell next)
  | store (cell : String) (value : Int) {next : Program Call Reply β} (rest : Silent next) :
      Silent (.store cell value next)
  | mark (name : String) {next : Program Call Reply β} (rest : Silent next) : Silent (.mark name next)
  | pass (gate : String) {next : Program Call Reply β} (rest : Silent next) : Silent (.pass gate next)
  | sleep (duration : Duration) {next : Program Call Reply β} (rest : Silent next) :
      Silent (.sleep duration next)

/-- Programs that nest sections, scoped handles, upgrades of handles, and waits for conditions. What is
not a section may end in any way at any point, and what follows may depend on how something has ended,
so failures and panics may be passed on or caught. A program may release the handles of its own scopes
early, but not those of a program around it. -/
inductive Bracketed : List HandleId → {β : Type} → Program Call Reply β → Prop where
  | silent {own : List HandleId} {β : Type} {program : Program Call Reply β}
      (silent : Silent program) : Bracketed own program
  | bind {own : List HandleId} {β γ : Type} {program : Program Call Reply β}
      {next : β → Program Call Reply γ} (first : Bracketed own program)
      (rest : ∀ result, Bracketed own (next result)) : Bracketed own (program.bind next)
  | sharedLocked {own : List HandleId} {ε α : Type} [OfLockError ε] (lock : LockId)
      {body : Program Call Reply (Ending ε α)} (closure : Bracketed [] body) :
      Bracketed own (sharedLocked lock body)
  | exclusiveLocked {own : List HandleId} {ε α : Type} [OfLockError ε] (lock : LockId)
      {body : Program Call Reply (Ending ε α)} (closure : Bracketed [] body) :
      Bracketed own (exclusiveLocked lock body)
  | sharedUpgradable {own : List HandleId} {ε α : Type} [OfLockError ε] (lock : LockId)
      {check : Program Call Reply (Ending ε α)}
      {accept : α → Program Call Reply (Ending Empty Bool)}
      {write : α → Program Call Reply (Ending ε α)} (checks : Bracketed [] check)
      (accepts : ∀ value, Bracketed [] (accept value))
      (writes : ∀ value, Bracketed [] (write value)) :
      Bracketed own (sharedUpgradable lock check accept write)
  | taking {own : List HandleId} {ε α : Type} [OfLockError ε] {operation : Operation}
      (takes : operation.takes = true) {body : HandleId → Program Call Reply (Ending ε α)}
      (scope : ∀ id, Bracketed (id :: own) (body id)) : Bracketed own (taking operation body)
  | release {own : List HandleId} {id : HandleId} (mine : id ∈ own) :
      Bracketed own (LockCalls.operate (.release id))
  | drop {own : List HandleId} {id : HandleId} (mine : id ∈ own) :
      Bracketed own (LockCalls.operate (.drop id))
  | wait {own : List HandleId} (id : HandleId) (name : String) (timeout : Option Duration) :
      Bracketed own (LockCalls.operate (.wait id name timeout))
  | signal {own : List HandleId} (name : String) (all : Bool) :
      Bracketed own (LockCalls.operate (.signal name all))

/-- A thread that runs a program rests at its end as at its beginning, with handles that stand as
before, but for some that the program may release. -/
def Keeps (thread : ThreadId) (own : List HandleId) (program : Program Call Reply β) : Prop :=
  ∀ {lock : LockId} {actions : List Action} {before : Handles} {start final : Place} {result : β},
    Rests thread before start.system →
    Evaluates thread lock Anyhow start program actions result final →
    ∃ after, Rests thread after final.system ∧ Kept own before after

theorem Rests.coherent {handles : Handles} {system : LockSystem}
    (rests : Rests thread handles system) : handles.Coherent none := by
  have account := (LockSystem.accounts_of_reachable rests.reachable).of_idle rests.idle
  rw [rests.handles] at account
  exact account.coherent

namespace Keeps

theorem mono {more : List HandleId} {program : Program Call Reply β} (keeps : Keeps thread own program)
    (le : ∀ id ∈ own, id ∈ more) : Keeps thread more program := by
  intro lock actions before start final result rests evaluates
  rcases keeps rests evaluates with ⟨after, rests, kept⟩
  exact ⟨after, rests, kept.mono le⟩

theorem of_silent {program : Program Call Reply β} (silent : Silent program) :
    Keeps thread own program := by
  intro lock actions before start final result rests evaluates
  have kept := evaluates.kept
    (fun config => Rests thread before config.place.system ∧
      ∃ program, config.task = .ready program ∧ Silent program)
    ⟨rests, program, rfl, silent⟩ ?_
  · exact ⟨before, kept.1, Kept.refl⟩
  · rintro ⟨place, task⟩ next action ⟨rests, program, rfl, silent⟩ step
    cases step with
    | other apart performed => exact ⟨rests.other apart performed, program, rfl, silent⟩
    | begin => cases silent
    | load value => cases silent with | load _ rest => exact ⟨rests, _, rfl, rest value⟩
    | store => cases silent with | store _ _ rest => exact ⟨rests, _, rfl, rest⟩
    | mark => cases silent with | mark _ rest => exact ⟨rests, _, rfl, rest⟩
    | pass => cases silent with | pass _ rest => exact ⟨rests, _, rfl, rest⟩
    | sleep => cases silent with | sleep _ rest => exact ⟨rests, _, rfl, rest⟩

theorem bind {program : Program Call Reply β} {next : β → Program Call Reply γ}
    (first : Keeps thread own program) (rest : ∀ result, Keeps thread own (next result)) :
    Keeps thread own (program.bind next) := by
  intro lock actions before start final result rests evaluates
  rcases evaluates.of_bind with ⟨_, _, value, middle, rfl, firstly, secondly⟩
  rcases first rests firstly with ⟨between, rests, kept⟩
  rcases rest value rests secondly with ⟨after, rests, also⟩
  exact ⟨after, rests, kept.trans also⟩

/-- A call that makes no handle. -/
theorem of_leaves {operation : Operation}
    (kept : ∀ {before after : Handles} {reply : Reply}, operation.Leaves before reply after →
      Kept own before after) :
    Keeps thread own (LockCalls.operate operation) := by
  intro lock actions before start final result rests evaluates
  rcases leaves_of_operate rests evaluates with ⟨after, rests, leaves⟩
  exact ⟨after, rests, kept leaves⟩

/-- The handle of a scope is dropped at the end, whether or not it was released before. -/
theorem of_scope {before between : Handles} {id : HandleId}
    {body : Program Call Reply (Ending ε α)} (closure : Keeps thread (id :: own) body)
    {start final : Place} {ending : Ending ε α} (coherent : before.Coherent none)
    (gains : Gains before id between) (rests : Rests thread between start.system)
    (evaluates : Evaluates thread lock Anyhow start
      (body.bind fun ending => (LockCalls.operate (.drop id)).bind fun _ => .finish ending) actions ending
      final) :
    ∃ after, Rests thread after final.system ∧ Kept own before after := by
  rcases evaluates.of_bind with ⟨_, _, value, middle, rfl, runs, leaves⟩
  rcases closure rests runs with ⟨ran, rests, kept⟩
  rcases leaves.of_bind with ⟨_, _, reply, dropped, rfl, drops, finishes⟩
  rcases leaves_of_operate rests drops with ⟨after, rests, others, gone⟩
  have ends : Keeps thread own (.finish value) := of_silent (.finish value)
  rcases ends rests finishes with ⟨last, rests, same⟩
  refine ⟨last, rests, Kept.trans ?_ same⟩
  intro key
  by_cases here : key = id
  · subst here
    have absent := gone (kept.childless (gains.childless coherent))
    rw [Handles.standing_eq_none_iff.mpr absent, Handles.standing_eq_none_iff.mpr gains.absent]
    exact Or.inl rfl
  · have untouched : after.standing key = ran.standing key := by
      rcases others key with same | ⟨mem, _⟩
      · exact same
      · exact absurd (List.mem_singleton.mp mem) here
    rw [untouched, ← gains.others key here]
    rcases kept key with same | ⟨mem, changed⟩
    · exact Or.inl same
    · exact Or.inr ⟨(List.mem_cons.mp mem).resolve_left here, changed⟩

theorem taking [OfLockError ε] {operation : Operation} (takes : operation.takes = true)
    {body : HandleId → Program Call Reply (Ending ε α)}
    (closure : ∀ id, Keeps thread (id :: own) (body id)) :
    Keeps thread own (Section.taking operation body) := by
  intro lock actions before start final ending rests evaluates
  rcases Evaluates.of_bind evaluates with ⟨_, _, reply, middle, rfl, asks, goesOn⟩
  have coherent := rests.coherent
  rcases leaves_of_operate rests asks with ⟨between, rests, leaves⟩
  rcases leaves.of_takes takes with ⟨id, rfl, gains⟩ | ⟨none, same⟩
  · exact of_scope (closure id) coherent gains rests goesOn
  · have finishes {ending : Ending ε α} : Keeps thread own (.finish ending) := of_silent (.finish ending)
    have rest : ∃ after, Rests thread after final.system ∧ Kept own between after := by
      cases reply with
      | handle id => exact absurd rfl (none id)
      | timedOut | done | waited | refused | panicked | borrowed | unsuitable => exact finishes rests goesOn
    rcases rest with ⟨after, rests, kept⟩
    exact ⟨after, rests, (Kept.of_standing same).trans kept⟩

theorem whenValue {program : Program Call Reply (Ending ε α)} {next : α → Program Call Reply (Ending ε β)}
    (first : Keeps thread own program) (rest : ∀ value, Keeps thread own (next value)) :
    Keeps thread own (Section.whenValue program next) := by
  refine first.bind ?_
  rintro (value | error | message)
  · exact rest value
  · exact of_silent (.finish _)
  · exact of_silent (.finish _)

theorem checked {check : Program Call Reply (Ending ε α)}
    {accept : α → Program Call Reply (Ending Empty Bool)} {next : α → Program Call Reply (Ending ε α)}
    (checks : Keeps thread own check) (accepts : ∀ value, Keeps thread own (accept value))
    (rest : ∀ value, Keeps thread own (next value)) :
    Keeps thread own (Section.checked check accept next) := by
  refine checks.whenValue fun value => ?_
  apply Keeps.bind (accepts value)
  rintro ((_ | _) | error | message)
  · exact of_silent (.finish _)
  · exact rest value
  · cases error
  · exact of_silent (.finish _)

end Keeps

theorem Bracketed.keeps {program : Program Call Reply β} (bracketed : Bracketed own program) :
    Keeps thread own program := by
  have inner {own : List HandleId} {β : Type} {program : Program Call Reply β}
      (keeps : Keeps thread [] program) : Keeps thread own program := Keeps.mono keeps (by simp)
  induction bracketed with
  | silent silent => exact Keeps.of_silent silent
  | bind _ _ first rest => exact Keeps.bind first rest
  | sharedLocked lock _ closure | exclusiveLocked lock _ closure =>
      exact Keeps.taking rfl fun _ => inner closure
  | sharedUpgradable lock _ _ _ checks accepts writes =>
      apply Keeps.taking rfl
      intro shared
      refine Keeps.checked (inner checks) (fun value => inner (accepts value)) fun _ => ?_
      apply Keeps.taking rfl
      intro child
      exact Keeps.checked (inner checks) (fun value => inner (accepts value)) fun value =>
        inner (writes value)
  | taking takes _ closure => exact Keeps.taking takes closure
  | release mine | wait id name timeout | signal name all =>
      apply Keeps.of_leaves
      intro before after reply leaves
      first
        | exact Kept.of_standing leaves
        | exact Kept.mono leaves (by simpa using mine)
  | drop mine =>
      apply Keeps.of_leaves
      intro before after reply leaves
      exact leaves.1.mono (by simpa using mine)

section Holding

variable {before after : Handles} {system final : LockSystem}

theorem Rests.sharedHolds (rests : Rests thread before system) (lock : LockId) :
    (system.locks.get lock).book.sharedHolds thread = before.tally (Handle.sharesOn lock) := by
  have accounts := LockSystem.accounts_of_reachable rests.reachable
  rw [(accounts.holds_of_idle rests.idle lock).1, rests.handles, Handles.sharedHolds_eq_tally]

theorem Rests.exclusiveHolds (rests : Rests thread before system) (lock : LockId) :
    (system.locks.get lock).book.exclusiveHolds thread = before.tally (Handle.excludesOn lock) := by
  have accounts := LockSystem.accounts_of_reachable rests.reachable
  rw [(accounts.holds_of_idle rests.idle lock).2, rests.handles, Handles.exclusiveHolds_eq_tally]

theorem counts_of_standing (rests : Rests thread before system) (rests' : Rests thread after final)
    (same : after.standing = before.standing) (lock : LockId) :
    (final.locks.get lock).book.sharedHolds thread = (system.locks.get lock).book.sharedHolds thread ∧
      (final.locks.get lock).book.exclusiveHolds thread
        = (system.locks.get lock).book.exclusiveHolds thread := by
  rw [rests.sharedHolds, rests'.sharedHolds, rests.exclusiveHolds, rests'.exclusiveHolds]
  constructor
  · apply Handles.tally_congr rests.coherent.keyed rests'.coherent.keyed
    intro id
    rw [Bool.eq_iff_iff, Handles.sharesOn_iff rests'.coherent, Handles.sharesOn_iff rests.coherent, same]
  · apply Handles.tally_congr rests.coherent.keyed rests'.coherent.keyed
    intro id
    rw [Handles.excludesOn_of_standing, Handles.excludesOn_of_standing, same]

/-- One shared handle more is one shared hold more. -/
theorem counts_of_gains {id : HandleId} {upgraded : Bool} (rests : Rests thread before system)
    (rests' : Rests thread after final) (gains : Gains before id after)
    (found : after.get? id = some (.shared lock .active upgraded)) :
    (final.locks.get lock).book.sharedHolds thread
        = (system.locks.get lock).book.sharedHolds thread + 1 ∧
      (final.locks.get lock).book.exclusiveHolds thread
        = (system.locks.get lock).book.exclusiveHolds thread := by
  have absent : before.standing id = none := Handles.standing_eq_none_iff.mpr gains.absent
  have stands : after.standing id = some (.shared lock .active true) := by
    rw [Handles.standing, found]
    rfl
  rw [rests.sharedHolds, rests'.sharedHolds, rests.exclusiveHolds, rests'.exclusiveHolds]
  constructor
  · apply Handles.tally_succ rests.coherent.keyed rests'.coherent.keyed gains.absent
    · simp [found, Handle.sharesOn]
    · intro key apart
      have children (child : HandleId) (place : LockId) :
          after.standing child ≠ some (.exclusive place true (some key)) ↔
            before.standing child ≠ some (.exclusive place true (some key)) := by
        by_cases here : child = id
        · subst here
          simp [absent, stands]
        · rw [gains.others child here]
      rw [Bool.eq_iff_iff, Handles.sharesOn_iff rests'.coherent, Handles.sharesOn_iff rests.coherent,
        gains.others key apart]
      simp only [children]
  · apply Handles.tally_congr rests.coherent.keyed rests'.coherent.keyed
    intro key
    rw [Handles.excludesOn_of_standing, Handles.excludesOn_of_standing]
    by_cases here : key = id
    · subst here
      simp [absent, stands, Handle.excludesOn]
    · rw [gains.others key here]

end Holding

section Waiting

/-- A thread never waits for a lock that nobody else has or waits for. -/
theorem lock_ne_of_parked {start config : Config β} (reachable : start.place.system.Reachable)
    (idle : start.place.system.activity thread = .idle) {place : LockId}
    (runs : Runs thread place (Alone thread lock) start actions config) :
    ∀ pursuit, config.place.system.activity thread = .parked pursuit → pursuit.lock ≠ lock := by
  suffices kept : config.place.system.Reachable ∧
      ∀ pursuit, config.place.system.activity thread = .parked pursuit → pursuit.lock ≠ lock from kept.2
  induction runs with
  | here => exact ⟨reachable, by simp [idle]⟩
  | @step actions action config next runs step _ ih =>
      have moved {now : Instant} {move : LockSystem.Move} {stepped : Stepped}
          (mine : move.thread = thread)
          (performed : config.place.system.perform now move = some stepped) :
          ∀ pursuit, stepped.state.activity thread = .parked pursuit → pursuit.lock ≠ lock := by
        rcases LockSystem.perform_transition performed with ⟨change, transition, stores⟩
        rw [mine] at transition stores
        rw [LockSystem.activity, stores.own]
        exact transition.lock_ne_of_parked (LockSystem.queues_of_reachable ih.1) runs.held ih.2
      cases step with
      | other apart performed =>
          refine ⟨ih.1.step performed, ?_⟩
          rw [LockSystem.activity, LockSystem.thread_of_others performed apart]
          exact ih.2
      | begin permitted performed => exact ⟨ih.1.step performed, moved rfl performed⟩
      | goOn mine busy performed => exact ⟨ih.1.step performed, moved mine performed⟩
      | load | store | mark | pass | sleep => exact ih

/-- The thread that makes a move. -/
def Action.mover? : Action → Option ThreadId
  | .turn _ move => some move.thread
  | .load _ | .pass => none

/-- A thread stays alone with a lock while only this thread moves. -/
theorem Runs.alone {start config : Config β} {place : LockId} (reachable : start.place.system.Reachable)
    (alone : Alone thread lock start.place.system)
    (runs : Runs thread place Anyhow start actions config)
    (own : ∀ action ∈ actions, ∀ mover ∈ action.mover?, mover = thread) :
    Runs thread place (Alone thread lock) start actions config := by
  suffices kept : Runs thread place (Alone thread lock) start actions config ∧
      config.place.system.Reachable from kept.1
  induction runs with
  | here => exact ⟨.here alone, reachable⟩
  | @step actions action config next _ step _ ih =>
      rcases ih fun action mem => own action (List.mem_append_left _ mem) with ⟨runs, reached⟩
      have moved {now : Instant} {move : LockSystem.Move} {stepped : Stepped}
          (performed : config.place.system.perform now move = some stepped) (mine : move.thread = thread) :
          Alone thread lock stepped.state := by
        intro other apart
        have elsewhere : move.thread ≠ other := mine ▸ Ne.symm apart
        have holds := LockSystem.holds_of_others reached performed elsewhere lock
        rcases runs.held other apart with ⟨holdless, unparked⟩
        refine ⟨⟨holds.1.trans holdless.1, holds.2.trans holdless.2⟩, ?_⟩
        rw [LockSystem.activity, LockSystem.thread_of_others performed elsewhere]
        exact unparked
      have mine {now : Instant} {move : LockSystem.Move} (same : action = .turn now move) :
          move.thread = thread := own action (by simp) _ (by rw [same]; rfl)
      refine ⟨runs.step step ?_, ?_⟩
      · cases step with
        | other apart performed => exact absurd (mine rfl) apart
        | begin permitted performed => exact moved performed rfl
        | goOn self busy performed => exact moved performed self
        | load | store | mark | pass | sleep => exact runs.held
      · cases step with
        | other apart performed => exact absurd (mine rfl) apart
        | begin permitted performed | goOn _ _ performed => exact reached.step performed
        | load | store | mark | pass | sleep => exact reached

end Waiting

section Refusing

variable {held : Nat}

/-- How far a call has come that asks for the exclusive lock for a thread that reads. -/
inductive Refusing (thread : ThreadId) (lock : LockId) (held : Nat) : Operation → Config Reply → Prop where
  | acquires {place : Place} (reachable : place.system.Reachable)
      (counts : Counts thread lock held 0 place.system) :
      Refusing thread lock held (.exclusive lock none)
        ⟨place, .ready (LockCalls.operate (.exclusive lock none))⟩
  | upgrades {place : Place} {id : HandleId} {upgraded : Bool} (reachable : place.system.Reachable)
      (found : (place.system.handles thread).get? id = some (.shared lock .active upgraded))
      (counts : Counts thread lock (held + 1) 0 place.system) :
      Refusing thread lock held (.upgrade id) ⟨place, .ready (LockCalls.operate (.upgrade id))⟩
  | asks {operation : Operation} {place : Place} {pursuit : LockSystem.Pursuit}
      (reachable : place.system.Reachable) (asking : place.system.activity thread = .asking pursuit)
      (there : pursuit.lock = lock) (request : pursuit.request = .exclusive)
      (purpose : operation = .exclusive lock none → pursuit.purpose = .acquire)
      (counts : Counts thread lock held 0 place.system) :
      Refusing thread lock held operation ⟨place, .pending true .finish⟩
  | recovers {operation : Operation} {place : Place} {pursuit : LockSystem.Pursuit} {parent : HandleId}
      {error : LockError} (reachable : place.system.Reachable)
      (pursues : (place.system.activity thread).Pursues pursuit)
      (purpose : pursuit.purpose = .recover parent error)
      (other : operation ≠ .exclusive lock none) :
      Refusing thread lock held operation ⟨place, .pending true .finish⟩
  | done {operation : Operation} {place : Place} {reply : Reply} (nothing : ∀ id, reply ≠ .handle id)
      (refused : operation = .exclusive lock none → reply = .refused (.upgradeNotPermitted held)) :
      Refusing thread lock held operation ⟨place, .ready (.finish reply)⟩

/-- The first step of an upgrade gives up one of the shared holds, or the handle cannot be upgraded. -/
theorem Refusing.of_upgrade {place : Place} {now : Instant} {id : HandleId} {upgraded : Bool}
    {stepped : Stepped} (reachable : place.system.Reachable)
    (found : (place.system.handles thread).get? id = some (.shared lock .active upgraded))
    (counts : Counts thread lock (held + 1) 0 place.system)
    (performed : place.system.perform now (.begin thread (.upgrade id)) = some stepped) :
    Refusing thread lock held (.upgrade id)
      ⟨place.after true stepped, .answered true .finish stepped.reply⟩ := by
  have after := reachable.step performed
  have begins := LockSystem.begins_of_perform performed
  cases lent : (place.system.handles thread).isBorrowed id with
  | true =>
      obtain rfl := begins.unique (.borrowed rfl found lent)
      exact .done (by simp) (by simp)
  | false =>
      cases upgraded with
      | true =>
          obtain rfl := begins.unique (.refuseUpgrade found rfl lent)
          exact .done (by simp) (by simp)
      | false =>
          obtain rfl := begins.unique (.upgrade found lent)
          refine .asks after (LockSystem.activity_carryOn _ []) rfl rfl (by simp) ?_
          have gives := Lock.gives_releaseShared
            ((LockSystem.queues_of_reachable reachable).sound lock) thread
          simp only [Counts, Place.after, LockSystem.carryOn, LockSystem.locks_turnTo,
            LockSystem.get_locks_setLock, if_true, gives.sharedHolds, gives.exclusiveHolds]
          exact ⟨congrArg (· - 1) counts.1, counts.2⟩

/-- The lock is refused to a thread that reads, and an upgrade goes on to get its shared hold back. -/
theorem Refusing.of_ask {operation : Operation} {place : Place} {now : Instant}
    {pursuit : LockSystem.Pursuit} {result : Lock × Lock.Outcome} (reachable : place.system.Reachable)
    (reads : 0 < held) (asking : place.system.activity thread = .asking pursuit)
    (there : pursuit.lock = lock) (request : pursuit.request = .exclusive)
    (purpose : operation = .exclusive lock none → pursuit.purpose = .acquire)
    (counts : Counts thread lock held 0 place.system)
    (attempt : place.system.Attempt thread pursuit result)
    (after : (place.system.settle thread pursuit now result).state.Reachable) :
    Refusing thread lock held operation
      ⟨place.after true (place.system.settle thread pursuit now result),
        .answered true .finish (place.system.settle thread pursuit now result).reply⟩ := by
  have refused : result.2 = .refused (.upgradeNotPermitted held) := by
    have asked : result
        = (place.system.locks.get pursuit.lock).ask thread pursuit.request pursuit.deadline := by
      cases attempt with
      | ask => rfl
      | wake parked | expire parked => cases asking.symm.trans parked
    have sound := ((LockSystem.queues_of_reachable reachable).sound lock).book
    have owner := Book.exclusiveHolds_pos_iff sound thread
    rw [counts.2] at owner
    rw [asked, Lock.ask_eq_refused_iff, there, counts.1]
    exact ⟨request, fun writer => absurd (owner.mpr writer) (by omega), reads, rfl⟩
  rcases result with ⟨settled, outcome⟩
  cases refused
  simp only [LockSystem.settle] at after ⊢
  cases aim : pursuit.purpose with
  | upgrade parent =>
      simp only [LockSystem.refuse, aim] at after ⊢
      refine .recovers after (Or.inl (LockSystem.activity_carryOn _ [])) rfl ?_
      rintro rfl
      cases aim.symm.trans (purpose rfl)
  | acquire | recover parent error | restore child parent drop | resume signalled =>
      simp only [LockSystem.refuse, aim]
      exact .done (by simp) (fun _ => rfl)

theorem Refusing.of_recovering {operation : Operation} {place : Place} {now : Instant}
    {pursuit : LockSystem.Pursuit} {parent : HandleId} {error : LockError}
    {result : Lock × Lock.Outcome} (purpose : pursuit.purpose = .recover parent error)
    (other : operation ≠ .exclusive lock none)
    (after : (place.system.settle thread pursuit now result).state.Reachable) :
    Refusing thread lock held operation
      ⟨place.after true (place.system.settle thread pursuit now result),
        .answered true .finish (place.system.settle thread pursuit now result).reply⟩ := by
  rcases result with ⟨settled, outcome⟩
  cases outcome with
  | granted | reentered =>
      simp only [LockSystem.settle, LockSystem.succeed, purpose]
      exact .done (by simp) (fun same => absurd same other)
  | refused error =>
      simp only [LockSystem.settle, LockSystem.refuse, purpose]
      exact .done (by simp) (fun same => absurd same other)
  | timedOut => exact .done (by simp) (fun same => absurd same other)
  | parked => exact .recovers after (Or.inr (LockSystem.activity_carryOn _ [])) purpose other

theorem Refusing.keep {operation : Operation} {config next : Config Reply} {action : Action}
    {place : LockId} (reads : 0 < held) (refusing : Refusing thread lock held operation config)
    (step : Step thread place config action next) : Refusing thread lock held operation next := by
  cases refusing with
  | acquires reachable counts =>
      cases step with
      | other apart performed =>
          exact .acquires (reachable.step performed) (counts.other reachable apart performed)
      | begin permitted performed =>
          have after := reachable.step performed
          rcases LockSystem.perform_begin_iff.mp performed with ⟨idle, rfl⟩
          exact .asks after (LockSystem.activity_carryOn _ []) rfl rfl (fun _ => rfl) counts
  | @upgrades place id upgraded reachable found counts =>
      cases step with
      | other apart performed =>
          have kept : (_ : Handles).get? id = some (.shared lock .active upgraded) := found
          rw [LockSystem.handles, ← LockSystem.thread_of_others performed apart] at kept
          exact .upgrades (reachable.step performed) kept (counts.other reachable apart performed)
      | begin permitted performed => exact .of_upgrade reachable found counts performed
  | asks reachable asking there request purpose counts =>
      cases step with
      | other apart performed =>
          refine .asks (reachable.step performed) ?_ there request purpose
            (counts.other reachable apart performed)
          rw [LockSystem.activity, LockSystem.thread_of_others performed apart]
          exact asking
      | goOn mine busy performed =>
          have after := reachable.step performed
          rcases LockSystem.settles_of_perform (Or.inl asking) performed mine busy with
            ⟨result, attempt, rfl⟩
          exact .of_ask reachable reads asking there request purpose counts attempt after
  | recovers reachable pursues purpose other =>
      cases step with
      | other apart performed =>
          refine .recovers (reachable.step performed) ?_ purpose other
          rw [LockSystem.activity, LockSystem.thread_of_others performed apart]
          exact pursues
      | goOn mine busy performed =>
          have after := reachable.step performed
          rcases LockSystem.settles_of_perform pursues performed mine busy with ⟨result, _, rfl⟩
          exact .of_recovering purpose other after
  | done nothing refused =>
      cases step with
      | other apart performed => exact .done nothing refused

variable [OfLockError ε] {start final : Place} {ending : Ending ε α}

/-- A refused section does the same whatever it was to run. -/
theorem exclusiveLocked_of_refused {body : Program Call Reply (Ending ε α)}
    (reachable : start.system.Reachable) (reads : 0 < held)
    (counts : Counts thread lock held 0 start.system)
    (evaluates : Evaluates thread lock Anyhow start (exclusiveLocked lock body) actions ending final) :
    ending = .failed (OfLockError.ofLockError (.upgradeNotPermitted held)) ∧
      ∀ other : Program Call Reply (Ending ε α),
        Evaluates thread lock Anyhow start (exclusiveLocked lock other) actions ending final := by
  have refuses {actions : List Action} {reply : Reply} {middle : Place}
      (asks : Evaluates thread lock Anyhow start (LockCalls.operate (.exclusive lock none)) actions reply
        middle) : reply = .refused (.upgradeNotPermitted held) := by
    cases asks.kept (Refusing thread lock held _) (.acquires reachable counts) (Refusing.keep reads) with
    | done nothing refused => exact refused rfl
  change Evaluates _ _ _ _ ((LockCalls.operate (.exclusive lock none)).bind _) _ _ _ at evaluates
  constructor
  · rcases evaluates.of_bind with ⟨_, _, reply, middle, rfl, asks, rest⟩
    cases refuses asks
    exact rest.eq_of_finish
  · intro other
    refine Evaluates.congr_bind evaluates fun asks rest => ?_
    cases refuses asks
    exact rest

/-- A handle of the section that still has its hold, next to other shared holds, is not upgraded. -/
theorem reply_ne_of_upgrade {between handles : Handles} {shared child : HandleId} {upgraded : Bool}
    {first : Place} (reads : 0 < held) (rests : Rests thread between first.system)
    (rests' : Rests thread handles start.system)
    (found : between.get? shared = some (.shared lock .active upgraded))
    (counts : Counts thread lock (held + 1) 0 first.system)
    (same : handles.standing = between.standing) {reply : Reply}
    (asks : Evaluates thread lock Anyhow start (LockCalls.operate (.upgrade shared)) actions reply final) :
    reply ≠ .handle child := by
  have shares : (between.get? shared).any (Handle.sharesOn lock) = true := by
    simp [found, Handle.sharesOn]
  rw [Handles.sharesOn_iff rests.coherent, ← same, ← Handles.sharesOn_iff rests'.coherent,
    Option.any_eq_true] at shares
  rcases shares with ⟨handle, still, shares⟩
  have now := counts_of_standing rests rests' same lock
  cases handle with
  | exclusive place owned parent => cases shares
  | shared place state upgraded =>
      simp only [Handle.sharesOn, Bool.and_eq_true, decide_eq_true_eq] at shares
      rcases shares with ⟨rfl, rfl⟩
      rw [← rests'.handles] at still
      cases asks.kept (Refusing thread place held _)
        (.upgrades rests'.reachable still ⟨now.1.trans counts.1, now.2.trans counts.2⟩)
        (Refusing.keep reads) with
      | done nothing refused => exact nothing child

theorem sharedUpgradable_of_refused {check : Program Call Reply (Ending ε α)}
    {accept : α → Program Call Reply (Ending Empty Bool)} {write : α → Program Call Reply (Ending ε α)}
    (checks : Bracketed [] check) (accepts : ∀ value, Bracketed [] (accept value))
    (reachable : start.system.Reachable) (idle : start.system.activity thread = .idle)
    (reads : 0 < held) (counts : Counts thread lock held 0 start.system)
    (evaluates : Evaluates thread lock Anyhow start (sharedUpgradable lock check accept write) actions
      ending final) (other : α → Program Call Reply (Ending ε α)) :
    Evaluates thread lock Anyhow start (sharedUpgradable lock check accept other) actions ending final := by
  -- The two programs part only after the upgrade, so the run is followed up to its refusal.
  change Evaluates _ _ _ _ ((LockCalls.operate (.shared lock none)).bind _) _ _ _ at evaluates
  refine Evaluates.congr_bind evaluates fun {_ _ _ first} asks rest => ?_
  have rests : Rests thread _ start.system := ⟨reachable, idle, rfl⟩
  rcases held_of_shared reachable asks with ⟨shared, rfl, retained⟩
  rcases leaves_of_operate rests asks with ⟨between, rests', ⟨_, same, gains⟩ | ⟨none, _⟩⟩
  · cases same
    have found : between.get? shared = some (.shared lock .active false) := by
      rw [← rests'.handles]
      exact retained.found
    have more := counts_of_gains rests rests' gains found
    have counts' : Counts thread lock (held + 1) 0 first.system :=
      ⟨by rw [more.1, counts.1], by rw [more.2, counts.2]⟩
    change Evaluates _ _ _ _ ((check.bind _).bind _) _ _ _ at rest
    change Evaluates _ _ _ _ ((check.bind _).bind _) _ _ _
    rw [Program.bind_assoc] at rest ⊢
    refine Evaluates.congr_bind rest fun {_ _ looked _} looks rest => ?_
    rcases checks.keeps rests' looks with ⟨_, rests'', kept⟩
    cases looked with
    | failed error => exact rest
    | panicked message => exact rest
    | value value =>
        change Evaluates _ _ _ _ (((accept value).bind _).bind _) _ _ _ at rest
        change Evaluates _ _ _ _ (((accept value).bind _).bind _) _ _ _
        rw [Program.bind_assoc] at rest ⊢
        refine Evaluates.congr_bind rest fun {_ _ decided _} decides rest => ?_
        rcases (accepts value).keeps rests'' decides with ⟨_, rests''', kept'⟩
        have same := kept'.standing_eq.trans kept.standing_eq
        cases decided with
        | failed error => cases error
        | panicked message => exact rest
        | value wanted =>
            cases wanted with
            | false => exact rest
            | true =>
                change Evaluates _ _ _ _ (((LockCalls.operate (.upgrade shared)).bind _).bind _) _ _ _
                  at rest
                change Evaluates _ _ _ _ (((LockCalls.operate (.upgrade shared)).bind _).bind _) _ _ _
                rw [Program.bind_assoc] at rest ⊢
                refine Evaluates.congr_bind rest fun {_ _ reply _} upgrades rest => ?_
                cases reply with
                | handle child =>
                    exact absurd rfl
                      (reply_ne_of_upgrade reads rests' rests''' found counts' same upgrades)
                | timedOut | done | waited | refused | panicked | borrowed | unsuitable => exact rest
  · exact absurd rfl (none shared)

end Refusing

/-- A program that nests sections, started by a thread at rest in any reachable state, leaves the thread
with the holds that it had, however the program and its parts end and whatever the other threads do; and
it never waits for a lock that no other thread has or waits for. A section that is refused the exclusive
lock, since its thread reads and is not the writer, never comes to what it was to run under it: it ends
in the same way with anything else in its place. -/
theorem holds_eq_of_bracketed {start : Place} (reachable : start.system.Reachable)
    (idle : start.system.activity thread = .idle) :
    (∀ {β : Type} {program : Program Call Reply β}, Bracketed [] program →
      (∀ {lock actions result final},
        Evaluates thread lock Anyhow start program actions result final → ∀ place,
          (final.system.locks.get place).book.sharedHolds thread
              = (start.system.locks.get place).book.sharedHolds thread ∧
            (final.system.locks.get place).book.exclusiveHolds thread
              = (start.system.locks.get place).book.exclusiveHolds thread) ∧
      ∀ {lock actions config},
        Runs thread lock (Alone thread lock) ⟨start, .ready program⟩ actions config → ∀ pursuit,
          config.place.system.activity thread = .parked pursuit → pursuit.lock ≠ lock) ∧
    ∀ {ε α : Type} [OfLockError ε] {lock held}, 0 < held → Counts thread lock held 0 start.system →
      (∀ {body : Program Call Reply (Ending ε α)} {actions ending final},
        Evaluates thread lock Anyhow start (exclusiveLocked lock body) actions ending final →
          ending = .failed (OfLockError.ofLockError (.upgradeNotPermitted held)) ∧
            ∀ other : Program Call Reply (Ending ε α),
              Evaluates thread lock Anyhow start (exclusiveLocked lock other) actions ending final) ∧
      ∀ {check : Program Call Reply (Ending ε α)} {accept : α → Program Call Reply (Ending Empty Bool)}
        {write actions ending final}, Bracketed [] check → (∀ value, Bracketed [] (accept value)) →
          Evaluates thread lock Anyhow start (sharedUpgradable lock check accept write) actions ending
            final → ∀ other, Evaluates thread lock Anyhow start (sharedUpgradable lock check accept other)
              actions ending final := by
  have rests : Rests thread _ start.system := ⟨reachable, idle, rfl⟩
  refine ⟨?_, ?_⟩
  · intro β program bracketed
    refine ⟨?_, fun runs => lock_ne_of_parked reachable idle runs⟩
    intro lock actions result final evaluates place
    rcases bracketed.keeps rests evaluates with ⟨after, rests', kept⟩
    exact counts_of_standing rests rests' kept.standing_eq place
  · intro ε α _ lock held reads counts
    refine ⟨fun evaluates => exclusiveLocked_of_refused reachable reads counts evaluates, ?_⟩
    intro check accept write actions ending final checks accepts evaluates
    exact sharedUpgradable_of_refused checks accepts reachable idle reads counts evaluates

/-- A thread that has a shared hold. -/
def reading : Place := ⟨LockSystem.follow {} [(0, .begin 0 (.shared 0 none)), (0, .proceed 0)], []⟩

/-- A section that stores a number. -/
def storing : Program Call Reply (Ending LockError Int) := .store "count" 1 (.finish (.value 1))

def loading : Program Call Reply (Ending LockError Int) :=
  .load "count" fun value => .finish (.value (value.getD 0))

theorem bracketed_storing {own : List HandleId} : Bracketed own storing :=
  .silent (.store _ _ (.finish _))

theorem bracketed_loading {own : List HandleId} : Bracketed own loading :=
  .silent (.load _ fun _ => .finish _)

theorem alone_reading : Alone 0 0 reading.system := by
  intro other apart
  have untouched : reading.system.threads.get other = {} := if_neg (Ne.symm apart)
  refine ⟨⟨if_neg (Ne.symm apart), rfl⟩, ?_⟩
  intro pursuit parked
  rw [LockSystem.activity, untouched] at parked
  cases parked

theorem holds_eq_of_reading :
    reading.system.Reachable ∧ reading.system.activity 0 = .idle ∧
      Bracketed [] (sharedLocked 0 (exclusiveLocked 0 storing)) ∧
      (∃ actions final,
        Evaluates 0 0 Anyhow reading (sharedLocked 0 (exclusiveLocked 0 storing)) actions
          (.failed (.upgradeNotPermitted 2)) final ∧
        (final.system.locks.get 0).book.sharedHolds 0 = 1 ∧
        ∀ pursuit, final.system.activity 0 = .parked pursuit → pursuit.lock ≠ 0) ∧
      Counts 0 0 1 0 reading.system ∧
      (∃ actions final,
        Evaluates 0 0 Anyhow reading (exclusiveLocked 0 storing) actions
          (.failed (.upgradeNotPermitted 1)) final ∧
        Evaluates 0 0 Anyhow reading (exclusiveLocked 0 loading) actions
          (.failed (.upgradeNotPermitted 1)) final) ∧
      ∃ actions final,
        Evaluates 0 0 Anyhow reading (sharedUpgradable 0 loading (fun _ => .finish (.value true))
          fun _ => storing) actions (.failed (.upgradeNotPermitted 1)) final ∧
        Evaluates 0 0 Anyhow reading (sharedUpgradable 0 loading (fun _ => .finish (.value true))
          fun _ => loading) actions (.failed (.upgradeNotPermitted 1)) final := by
  have reachable : reading.system.Reachable := ⟨_, LockSystem.run_empty.follow _⟩
  have idle : reading.system.activity 0 = .idle := by decide
  have counts : Counts 0 0 1 0 reading.system := ⟨by decide, by decide⟩
  have law := holds_eq_of_bracketed reachable idle
  have nested : Bracketed [] (sharedLocked 0 (exclusiveLocked 0 storing)) :=
    .sharedLocked 0 (.exclusiveLocked 0 bracketed_storing)
  have outer : Evaluates 0 0 Anyhow reading (sharedLocked 0 (exclusiveLocked 0 storing))
      [.turn 0 (.begin 0 (.shared 0 none)), .turn 0 (.proceed 0), .turn 0 (.begin 0 (.exclusive 0 none)),
        .turn 0 (.proceed 0), .turn 0 (.begin 0 (.drop 1))] (.failed (.upgradeNotPermitted 2)) _ :=
    Runs.of_execute? rfl
  have inner : Evaluates 0 0 Anyhow reading (exclusiveLocked 0 storing)
      [.turn 0 (.begin 0 (.exclusive 0 none)), .turn 0 (.proceed 0)]
      (.failed (.upgradeNotPermitted 1)) _ := Runs.of_execute? rfl
  have upgrading : Evaluates 0 0 Anyhow reading
      (sharedUpgradable 0 loading (fun _ => .finish (.value true)) fun _ => storing)
      [.turn 0 (.begin 0 (.shared 0 none)), .turn 0 (.proceed 0), .load none,
        .turn 0 (.begin 0 (.upgrade 1)), .turn 0 (.proceed 0), .turn 0 (.proceed 0),
        .turn 0 (.begin 0 (.drop 1))] (.failed (.upgradeNotPermitted 1)) _ := Runs.of_execute? rfl
  refine ⟨reachable, idle, nested, ⟨_, _, outer, ?_, ?_⟩, counts, ⟨_, _, inner, ?_⟩,
    ⟨_, _, upgrading, ?_⟩⟩
  · exact (((law.1 nested).1 outer) 0).1
  · exact (law.1 nested).2 (outer.alone reachable alone_reading (by decide))
  · exact ((law.2 (by decide) counts).1 inner).2 loading
  · exact (law.2 (by decide) counts).2 bracketed_loading (fun _ => .silent (.finish _)) upgrading
      fun _ => loading

end Section

end Coordination
