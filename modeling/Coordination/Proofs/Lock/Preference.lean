import Coordination.Proofs.Lock.Courses
import Coordination.Proofs.Lock.Exclusion

/-!
# Writers go first

While a thread queues for the exclusive lock, no other thread becomes a reader but the writer, which may
always read. So the readers that a queued thread waits for are those that there were when it joined the
queue and those that were the writer meanwhile and go on reading (`preference_of_stretch`).

What keeps new readers out is the length of the queue. It is not 0 as long as somebody queues, whoever
else joins and leaves the queue in the meantime, and then a lock without a writer admits only those who
are listed as readers already.
-/

namespace Coordination

/-- The exclusive holds tell who is the writer. -/
theorem Book.writer_eq_of_exclusiveHolds {first second : Book} (sound : first.Sound)
    (sound' : second.Sound)
    (same : ∀ thread, first.exclusiveHolds thread = second.exclusiveHolds thread) :
    first.writer = second.writer := by
  apply Option.ext
  intro thread
  rw [← exclusiveHolds_pos_iff sound, ← exclusiveHolds_pos_iff sound', same]

namespace LockSystem

/-- The threads that have shared holds on a lock. -/
def readers (system : LockSystem) (id : LockId) : Set ThreadId :=
  {thread | 0 < (system.locks.get id).book.sharedHolds thread}

/-- The threads that have shared holds on a lock and no exclusive ones. -/
def visitors (system : LockSystem) (id : LockId) : Set ThreadId :=
  {thread | thread ∈ system.readers id ∧ (system.locks.get id).book.writer ≠ some thread}

/-- Whether a thread is parked at a lock until it may have the exclusive one. -/
def Activity.queues (id : LockId) : Activity → Bool
  | .parked pursuit => pursuit.lock = id && pursuit.request.writes
  | _ => false

theorem mem_queue_iff {system : LockSystem} {id : LockId} {thread : ThreadId} :
    thread ∈ system.queue id ↔ (system.activity thread).queues id = true := by
  simp only [queue, Set.mem_ofPred_eq]
  cases system.activity thread <;> simp [Activity.queues]

instance (system : LockSystem) (id : LockId) (thread : ThreadId) :
    Decidable (thread ∈ system.queue id) :=
  decidable_of_iff _ mem_queue_iff.symm

/-- The writer becomes a reader: it gives its last exclusive hold back and keeps its shared ones. -/
structure Moment.Downgrades (moment : Moment) (id : LockId) (thread : ThreadId) : Prop where
  own : moment.move.thread = thread
  before : (moment.before.locks.get id).book.writer = some thread
  after : (moment.after.locks.get id).book.writer = none
  keeps : (moment.after.locks.get id).book.sharedHolds thread
    = (moment.before.locks.get id).book.sharedHolds thread

/-- A period in which a thread queues for the exclusive lock: a step in which it joins the queue, and
steps before which it is queued. The last of them may be the one in which it leaves the queue. -/
structure Queueing (moments : List Moment) (id : LockId) (thread : ThreadId) (first : Moment)
    (during : List Moment) : Prop where
  cut : ∃ earlier later, moments = earlier ++ first :: during ++ later
  joins : thread ∉ first.before.queue id ∧ thread ∈ first.after.queue id
  stays : ∀ moment ∈ during, thread ∈ moment.before.queue id

/-- How readers are treated in a period in which a thread queues for the exclusive lock. -/
structure Preference (id : LockId) (thread : ThreadId) (period : List Moment) : Prop where
  /-- Only the writer takes a first shared hold. -/
  first : ∀ moment ∈ period, ∀ {reader},
    (moment.before.locks.get id).book.sharedHolds reader = 0 →
      0 < (moment.after.locks.get id).book.sharedHolds reader →
        (moment.before.locks.get id).book.writer = some reader ∧
          (moment.after.locks.get id).book.writer = some reader
  /-- Whoever asks for a first shared hold in any other case, for whatever purpose, does without. -/
  kept : ∀ moment ∈ period, ∀ {pursuit},
    (moment.before.activity moment.move.thread).Pursues pursuit → pursuit.lock = id →
      pursuit.request = .shared →
        (moment.before.locks.get id).book.Holdless moment.move.thread →
          (moment.after.locks.get id).book.sharedHolds moment.move.thread = 0 ∧
            (moment.after.activity moment.move.thread = .parked pursuit ∨
              moment.reply = some .timedOut ∧ pursuit.deadline ≠ none)
  /-- The release of a child is no exception: its parent waits for its hold. -/
  restores : ∀ moment ∈ period, ∀ {pursuit child parent drop},
    (moment.before.activity moment.move.thread).Pursues pursuit → pursuit.lock = id →
      pursuit.purpose = .restore child parent drop →
        (moment.before.locks.get id).book.Holdless moment.move.thread →
          (moment.after.locks.get id).book.sharedHolds moment.move.thread = 0 ∧
            moment.after.activity moment.move.thread = .parked pursuit
  /-- From any state of the period to any later one, new readers have been the writer meanwhile. -/
  readers : ∀ {earlier part later start final}, period = earlier ++ part ++ later →
    Stretch start part final → final.readers id ⊆ start.readers id ∪
      {reader | ∃ moment ∈ part, (moment.before.locks.get id).book.writer = some reader}
  /-- Apart from writers that keep their shared holds, the readers get fewer and fewer. -/
  visitors : ∀ {earlier part later start final}, period = earlier ++ part ++ later →
    Stretch start part final → final.visitors id ⊆ start.visitors id ∪
      {reader | ∃ moment ∈ part, moment.Downgrades id reader}
  /-- The thread leaves the queue when it becomes the writer, or gives up at its deadline. -/
  leaves : ∀ moment ∈ period, thread ∈ moment.before.queue id → thread ∉ moment.after.queue id →
    moment.move.thread = thread ∧
      ((moment.after.locks.get id).book.writer = some thread ∨ moment.reply = some .timedOut)

variable {system final : LockSystem} {thread reader : ThreadId} {now : Instant} {move : Move}
  {stepped : Stepped} {id : LockId}

section Dealings

variable {change : Change} {pursuit : Pursuit} {result : Lock × Lock.Outcome}

/-- What a step does to a lock: it leaves it alone, it gives back holds of one mode, or it settles a
request. -/
inductive Deals (system : LockSystem) (thread : ThreadId) : Option (LockId × Lock) → Prop where
  | nothing : Deals system thread none
  | gives {place : LockId} {lock : Lock} {shares excludes : Nat}
      (gives : (system.locks.get place).Gives thread shares excludes lock)
      (single : shares = 0 ∨ excludes = 0) : Deals system thread (some (place, lock))
  | settles {pursuit : Pursuit} {lock : Lock} {outcome : Lock.Outcome}
      (attempt : Attempt system thread pursuit (lock, outcome)) :
      Deals system thread (some (pursuit.lock, lock))

theorem Transition.deals (transition : Transition system thread change) (queues : system.Queues) :
    Deals system thread change.lock := by
  cases transition with
  | turn | stay | discard | leave => exact .nothing
  | releaseShared | upgrade => exact .gives (Lock.gives_releaseShared (queues.sound _) thread) (Or.inr rfl)
  | releaseExclusive | releaseChild =>
      exact .gives (Lock.gives_releaseExclusive (queues.sound _) thread) (Or.inl rfl)
  | wait name idle found suspended =>
      exact .gives (Lock.gives_suspend (queues.sound _) suspended) (Or.inl rfl)
  | park attempt | timeOut attempt | refuse attempt | refuseUpgrade _ attempt => exact .settles attempt
  | acquire attempt | makeChild attempt | recover attempt | restore attempt | resume attempt =>
      exact .settles attempt

/-- While somebody queues for the exclusive lock, only the writer is granted a first shared hold. -/
theorem Attempt.writer_of_first (queues : system.Queues)
    (attempt : Attempt system thread pursuit result) (request : pursuit.request = .shared)
    (granted : result.2.grants = true) (queued : (system.queue pursuit.lock).Nonempty)
    (unread : (system.locks.get pursuit.lock).book.sharedHolds thread = 0) :
    (system.locks.get pursuit.lock).book.writer = some thread := by
  by_contra unowned
  have admitted : (system.locks.get pursuit.lock).book.canRead thread = true := by
    rw [attempt.grants queues fun _ => unowned, request] at granted
    exact granted
  have waited : (system.locks.get pursuit.lock).book.waitingWriters ≠ 0 := by
    intro empty
    have length := queues.encard_queue pursuit.lock
    rw [empty, Nat.cast_zero, Set.encard_eq_zero] at length
    exact queued.ne_empty length
  have unlisted : (system.locks.get pursuit.lock).book.readers.lists thread = false := by
    by_contra listed
    have reads := (Holds.lists_iff (queues.sound pursuit.lock).book.proper thread).mp (by simpa using listed)
    exact absurd unread (Nat.ne_of_gt reads)
  cases writer : (system.locks.get pursuit.lock).book.writer with
  | none => simp [Book.canRead, writer, waited, unlisted] at admitted
  | some owner =>
      simp only [Book.canRead, writer, decide_eq_true_eq] at admitted
      exact unowned (by rw [writer, admitted])

/-- A thread that gets a shared hold has asked for it, and nobody becomes the writer or ceases to be it.
-/
theorem gains_of_perform (reachable : system.Reachable)
    (performed : system.perform now move = some stepped)
    (gains : (system.locks.get id).book.sharedHolds reader
      < (stepped.state.locks.get id).book.sharedHolds reader) :
    move.thread = reader ∧ (stepped.state.locks.get id).book.writer = (system.locks.get id).book.writer ∧
      ∃ pursuit result, Attempt system reader pursuit result ∧ pursuit.lock = id ∧
        pursuit.request = .shared ∧ result.2.grants = true := by
  have queues := queues_of_reachable reachable
  rcases perform_transition performed with ⟨change, transition, stores⟩
  have deals := transition.deals queues
  generalize dealt : change.lock = changed at deals
  cases deals with
  | nothing =>
      rw [stores.unchanged dealt] at gains
      exact absurd gains (Nat.lt_irrefl _)
  | @gives place lock shares excludes gives single =>
      have locks := stores.changed _ _ dealt id
      rw [locks] at gains
      split at gains
      · subst place
        rw [gives.sharedHolds] at gains
        omega
      · exact absurd gains (Nat.lt_irrefl _)
  | @settles pursuit lock outcome attempt =>
      have locks := stores.changed _ _ dealt id
      rcases queues.attempt attempt with ⟨sound, settles⟩
      rw [locks] at gains ⊢
      by_cases here : pursuit.lock = id
      · subst id
        rw [if_pos rfl] at gains ⊢
        rw [settles.sharedHolds] at gains
        have granted : (move.thread = reader ∧ outcome.grants = true) ∧ 0 < pursuit.request.shares := by
          by_contra denied
          split at gains
          · rename_i granted
            exact denied ⟨granted, by omega⟩
          · omega
        rcases granted with ⟨⟨rfl, granted⟩, shares⟩
        have request : pursuit.request = .shared := by
          cases request : pursuit.request <;> simp [request, Request.shares] at shares ⊢
        refine ⟨rfl, ?_, pursuit, _, attempt, rfl, request, granted⟩
        refine Book.writer_eq_of_exclusiveHolds sound.book (queues.sound pursuit.lock).book fun other => ?_
        simp [settles.exclusiveHolds, request, Request.excludes]
      · rw [if_neg here] at gains
        exact absurd gains (Nat.lt_irrefl _)

end Dealings

section Steps

/-- A thread joins and leaves the queue with its own steps only. -/
theorem mem_queue_of_ne (performed : system.perform now move = some stepped) (apart : move.thread ≠ thread) :
    thread ∈ stepped.state.queue id ↔ thread ∈ system.queue id := by
  rw [mem_queue_iff, mem_queue_iff, activity, thread_of_others performed apart, activity]

/-- In a step before or after which somebody queues, only the writer takes a first shared hold. -/
theorem writer_of_perform (reachable : system.Reachable)
    (performed : system.perform now move = some stepped)
    (queued : thread ∈ system.queue id ∨ thread ∈ stepped.state.queue id)
    (unread : (system.locks.get id).book.sharedHolds reader = 0)
    (reads : 0 < (stepped.state.locks.get id).book.sharedHolds reader) :
    (system.locks.get id).book.writer = some reader ∧
      (stepped.state.locks.get id).book.writer = some reader := by
  rcases gains_of_perform reachable performed (unread.trans_lt reads) with
    ⟨own, same, pursuit, result, attempt, rfl, request, granted⟩
  rw [same, and_self]
  by_cases before : thread ∈ system.queue pursuit.lock
  · exact attempt.writer_of_first (queues_of_reachable reachable) request granted ⟨thread, before⟩ unread
  · -- The reader would be the thread that joins the queue, but who queues has no holds.
    exfalso
    have joins := queued.resolve_left before
    have mine : move.thread = thread := by
      by_contra apart
      exact before ((mem_queue_of_ne performed apart).mp joins)
    rcases joins with ⟨next, parked, there, _⟩
    have holdless := (queues_of_reachable (reachable.step performed)).holdless_of_parked parked
    rw [there, ← mine, own] at holdless
    exact absurd holdless.1 (Nat.ne_of_gt reads)

theorem kept_of_perform {pursuit : Pursuit} (reachable : system.Reachable)
    (performed : system.perform now move = some stepped)
    (queued : thread ∈ system.queue id ∨ thread ∈ stepped.state.queue id)
    (pursues : (system.activity move.thread).Pursues pursuit) (there : pursuit.lock = id)
    (request : pursuit.request = .shared)
    (holdless : (system.locks.get id).book.Holdless move.thread) :
    (stepped.state.locks.get id).book.sharedHolds move.thread = 0 ∧
      (stepped.state.activity move.thread = .parked pursuit ∨
        stepped.reply = some .timedOut ∧ pursuit.deadline ≠ none) := by
  have queues := queues_of_reachable reachable
  have unread : (stepped.state.locks.get id).book.sharedHolds move.thread = 0 := by
    by_contra reads
    have writer := (writer_of_perform reachable performed queued holdless.1 (Nat.pos_of_ne_zero reads)).1
    exact Book.writer_ne_of_holdless (queues.sound id).book holdless writer
  refine ⟨unread, ?_⟩
  rcases settles_of_perform pursues performed rfl (not_begin_of_pursues performed pursues) with
    ⟨⟨lock, outcome⟩, attempt, rfl⟩
  have settles := (queues.attempt attempt).2
  cases outcome with
  | granted | reentered =>
      rw [get_locks_settle, if_pos there, settles.sharedHolds] at unread
      simp [request, Request.shares, Lock.Outcome.grants] at unread
  | refused error => cases request.symm.trans (attempt.request_of_refused rfl)
  | parked => exact Or.inl (activity_carryOn _ _)
  | timedOut => exact Or.inr ⟨rfl, queues.deadline_ne_none attempt rfl⟩

/-- A child that is released while somebody queues leaves its parent without its hold for now, and there
is no deadline that could end this wait. -/
theorem restores_of_perform {pursuit : Pursuit} {child parent : HandleId} {drop : Bool}
    (reachable : system.Reachable) (performed : system.perform now move = some stepped)
    (queued : thread ∈ system.queue id ∨ thread ∈ stepped.state.queue id)
    (pursues : (system.activity move.thread).Pursues pursuit) (there : pursuit.lock = id)
    (purpose : pursuit.purpose = .restore child parent drop)
    (holdless : (system.locks.get id).book.Holdless move.thread) :
    (stepped.state.locks.get id).book.sharedHolds move.thread = 0 ∧
      stepped.state.activity move.thread = .parked pursuit := by
  have suits := (accounts_of_reachable reachable move.thread).suits _ pursues
  simp only [Pursuit.Suits, purpose] at suits
  rcases kept_of_perform reachable performed queued pursues there suits.1 holdless with
    ⟨unread, parked | ⟨_, timed⟩⟩
  · exact ⟨unread, parked⟩
  · exact absurd suits.2.1 timed

/-- A thread that leaves the queue has become the writer, or its deadline has passed. -/
theorem leaves_of_perform (reachable : system.Reachable)
    (performed : system.perform now move = some stepped) (queued : thread ∈ system.queue id)
    (left : thread ∉ stepped.state.queue id) :
    move.thread = thread ∧
      ((stepped.state.locks.get id).book.writer = some thread ∨ stepped.reply = some .timedOut) := by
  have own : move.thread = thread := by
    by_contra apart
    exact left ((mem_queue_of_ne performed apart).mpr queued)
  refine ⟨own, ?_⟩
  subst own
  have queues := queues_of_reachable reachable
  rcases queued with ⟨pursuit, parked, rfl, writes⟩
  rcases settles_of_perform (Or.inr parked) performed rfl
    (not_begin_of_pursues performed (Or.inr parked)) with ⟨⟨lock, outcome⟩, attempt, rfl⟩
  have granted (grants : outcome.grants = true) :
      ((system.settle move.thread pursuit now (lock, outcome)).state.locks.get pursuit.lock).book.writer
        = some move.thread := by
    rw [get_locks_settle, if_pos rfl]
    exact attempt.writer queues grants writes
  cases outcome with
  | granted | reentered => exact Or.inl (granted rfl)
  | refused error => cases (attempt.asks_of_refused rfl).symm.trans parked
  | parked => exact absurd ⟨pursuit, activity_carryOn _ _, rfl, writes⟩ left
  | timedOut => exact Or.inr rfl

/-- A writer that ceases to be one and has shared holds has given up exclusive holds only. -/
theorem downgrades_of_perform (reachable : system.Reachable)
    (performed : system.perform now move = some stepped)
    (writer : (system.locks.get id).book.writer = some reader)
    (released : (stepped.state.locks.get id).book.writer ≠ some reader) :
    Moment.Downgrades ⟨system, now, move, stepped.state, stepped.reply⟩ id reader := by
  have queues := queues_of_reachable reachable
  have sound := (queues.sound id).book
  have sound' := ((queues_of_reachable (reachable.step performed)).sound id).book
  have held := (Book.exclusiveHolds_pos_iff sound reader).mpr writer
  have gone : (stepped.state.locks.get id).book.exclusiveHolds reader = 0 := by
    by_contra some
    exact released ((Book.exclusiveHolds_pos_iff sound' reader).mp (Nat.pos_of_ne_zero some))
  have own : move.thread = reader := by
    by_contra apart
    have same := (holds_of_others reachable performed apart id).2
    omega
  subst own
  rcases perform_transition performed with ⟨change, transition, stores⟩
  have deals := transition.deals queues
  generalize dealt : change.lock = changed at deals
  cases deals with
  | nothing =>
      rw [stores.unchanged dealt] at gone
      omega
  | @gives place lock shares excludes gives single =>
      have locks := stores.changed _ _ dealt id
      by_cases here : place = id
      · subst place
        rw [if_pos rfl] at locks
        rw [locks] at gone sound'
        have kept : shares = 0 := by
          rw [gives.exclusiveHolds, if_pos rfl] at gone
          exact single.resolve_right (by omega)
        refine ⟨rfl, writer, ?_, ?_⟩
        · rw [Option.eq_none_iff_forall_ne_some]
          intro other owner
          rw [locks] at owner
          have some := (Book.exclusiveHolds_pos_iff sound' other).mpr owner
          have before : 0 < (system.locks.get id).book.exclusiveHolds other := by
            rw [gives.exclusiveHolds] at some
            omega
          obtain rfl : move.thread = other :=
            Option.some.inj (writer.symm.trans ((Book.exclusiveHolds_pos_iff sound other).mp before))
          omega
        · rw [locks, gives.sharedHolds, kept, ite_self, Nat.sub_zero]
      · rw [locks, if_neg here] at gone
        omega
  | @settles pursuit lock outcome attempt =>
      have locks := stores.changed _ _ dealt id
      by_cases here : pursuit.lock = id
      · subst id
        rw [locks, if_pos rfl, (queues.attempt attempt).2.exclusiveHolds] at gone
        omega
      · rw [locks, if_neg here] at gone
        omega

/-- Who is not a visitor before a step is none after it, unless it was the writer and downgrades. -/
theorem visitors_of_perform (reachable : system.Reachable)
    (performed : system.perform now move = some stepped)
    (queued : thread ∈ system.queue id ∨ thread ∈ stepped.state.queue id) :
    stepped.state.visitors id ⊆ system.visitors id ∪
      {reader | Moment.Downgrades ⟨system, now, move, stepped.state, stepped.reply⟩ id reader} := by
  rintro reader ⟨reads, released⟩
  by_cases unread : (system.locks.get id).book.sharedHolds reader = 0
  · exact absurd (writer_of_perform reachable performed queued unread reads).2 released
  · by_cases writer : (system.locks.get id).book.writer = some reader
    · exact Or.inr (downgrades_of_perform reachable performed writer released)
    · exact Or.inl ⟨Nat.pos_of_ne_zero unread, writer⟩

end Steps

section Periods

variable {moments during : List Moment} {first : Moment}

/-- What grows with some moments only has grown with one of them whenever it has grown. -/
theorem Stretch.growth (stretch : Stretch system moments final) (counted : LockSystem → Set ThreadId)
    (growing : Moment → Set ThreadId)
    (each : ∀ moment ∈ moments, counted moment.after ⊆ counted moment.before ∪ growing moment) :
    counted final ⊆ counted system ∪ {reader | ∃ moment ∈ moments, reader ∈ growing moment} := by
  induction stretch with
  | rest system => exact Set.subset_union_left
  | @step system final now move stepped moments performed later ih =>
      intro reader counts
      rcases ih (fun moment mem => each moment (List.mem_cons_of_mem _ mem)) counts with
        sooner | ⟨moment, mem, grows⟩
      · refine (each _ List.mem_cons_self sooner).imp_right fun grows => ?_
        exact ⟨_, List.mem_cons_self, grows⟩
      · exact Or.inr ⟨moment, List.mem_cons_of_mem _ mem, grows⟩

theorem Queueing.mem (queueing : Queueing moments id thread first during) :
    ∀ moment ∈ first :: during, moment ∈ moments := by
  rcases queueing.cut with ⟨earlier, later, rfl⟩
  intro moment mem
  exact List.mem_append_left _ (List.mem_append_right _ mem)

theorem Queueing.queued (queueing : Queueing moments id thread first during) :
    ∀ moment ∈ first :: during, thread ∈ moment.before.queue id ∨ thread ∈ moment.after.queue id := by
  intro moment mem
  rcases List.mem_cons.mp mem with rfl | later
  · exact Or.inr queueing.joins.2
  · exact Or.inl (queueing.stays moment later)

/-- **Writers go first**: whoever queues for the exclusive lock, and whatever the others do meanwhile,
only the writer becomes a reader until the thread has the lock or gives up. -/
theorem preference_of_stretch (reachable : system.Reachable) (stretch : Stretch system moments final)
    (queueing : Queueing moments id thread first during) : Preference id thread (first :: during) := by
  have happens : ∀ moment ∈ first :: during, moment.Happens :=
    fun moment mem => stretch.happens reachable moment (queueing.mem moment mem)
  have within : ∀ {earlier part later}, first :: during = earlier ++ part ++ later →
      ∀ moment ∈ part, moment ∈ first :: during := by
    intro earlier part later split moment mem
    rw [split]
    exact List.mem_append_left _ (List.mem_append_right _ mem)
  have firsts : ∀ moment ∈ first :: during, ∀ {reader},
      (moment.before.locks.get id).book.sharedHolds reader = 0 →
        0 < (moment.after.locks.get id).book.sharedHolds reader →
          (moment.before.locks.get id).book.writer = some reader ∧
            (moment.after.locks.get id).book.writer = some reader := by
    rintro ⟨before, now, move, after, reply⟩ mem reader unread reads
    rcases happens _ mem with ⟨reachable, stepped, performed, rfl, rfl⟩
    exact writer_of_perform reachable performed (queueing.queued _ mem) unread reads
  constructor
  case first => exact firsts
  case kept =>
    rintro ⟨before, now, move, after, reply⟩ mem pursuit pursues there request holdless
    rcases happens _ mem with ⟨reachable, stepped, performed, rfl, rfl⟩
    exact kept_of_perform reachable performed (queueing.queued _ mem) pursues there request holdless
  case restores =>
    rintro ⟨before, now, move, after, reply⟩ mem pursuit child parent drop pursues there purpose holdless
    rcases happens _ mem with ⟨reachable, stepped, performed, rfl, rfl⟩
    exact restores_of_perform reachable performed (queueing.queued _ mem) pursues there purpose holdless
  case readers =>
    intro earlier part later start final split stretch
    refine stretch.growth (fun system => system.readers id)
      (fun moment => {reader | (moment.before.locks.get id).book.writer = some reader}) ?_
    intro moment mem reader reads
    by_cases unread : (moment.before.locks.get id).book.sharedHolds reader = 0
    · exact Or.inr (firsts moment (within split moment mem) unread reads).1
    · exact Or.inl (Nat.pos_of_ne_zero unread)
  case visitors =>
    intro earlier part later start final split stretch
    refine stretch.growth (fun system => system.visitors id)
      (fun moment => {reader | moment.Downgrades id reader}) ?_
    rintro ⟨before, now, move, after, reply⟩ mem
    have among := within split _ mem
    rcases happens _ among with ⟨reachable, stepped, performed, rfl, rfl⟩
    exact visitors_of_perform reachable performed (queueing.queued _ among)
  case leaves =>
    rintro ⟨before, now, move, after, reply⟩ mem queued left
    rcases happens _ mem with ⟨reachable, stepped, performed, rfl, rfl⟩
    exact leaves_of_perform reachable performed queued left

/-- A thread queues for the exclusive lock until its deadline. Meanwhile a child is dropped whose parent
has to wait, and another thread becomes the writer, reads, and downgrades behind the back of a third one
that wants to read. -/
def barging : List (Instant × Move) :=
  [.begin 0 (.shared 0 none), .proceed 0, .begin 0 (.upgrade 0), .proceed 0,
    .begin 1 (.exclusive 0 (some ⟨5⟩)), .proceed 1, .begin 0 (.drop 1), .proceed 0,
    .begin 2 (.exclusive 0 none), .proceed 2, .begin 2 (.shared 0 none), .proceed 2,
    .begin 3 (.shared 0 none), .proceed 3, .begin 2 (.drop 2)].map (0, ·)
  ++ [.expire 1, .wake 0].map (5, ·)

theorem preference_of_barging :
    let moments := trace {} barging
    ∃ first during, Reachable {} ∧ moments = moments.take 5 ++ first :: during ++ moments.drop 16 ∧
      during.filterMap (·.reply) = [.handle 2, .handle 3, .done, .timedOut] ∧
      Queueing moments 0 1 first during ∧ Preference 0 1 (first :: during) := by
  intro moments
  have split : moments = moments.take 5 ++ moments.get ⟨5, by decide⟩ :: (moments.drop 6).take 10
      ++ moments.drop 16 := rfl
  have queueing : Queueing moments 0 1 (moments.get ⟨5, by decide⟩) ((moments.drop 6).take 10) :=
    ⟨⟨_, _, split⟩, by decide, by decide⟩
  exact ⟨_, _, ⟨[], run_empty⟩, split, by decide, queueing,
    preference_of_stretch ⟨[], run_empty⟩ (stretch_follow {} barging) queueing⟩

end Periods

end LockSystem

end Coordination
