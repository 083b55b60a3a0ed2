import Coordination.Proofs.Lock.Accounting
import Coordination.Proofs.Lock.Conditions
import Coordination.Proofs.Lock.Courses
import Coordination.Proofs.Lock.Exclusion

/-!
# Waiting gives a lock up and gets it back

A thread that waits for a condition has no hold on the lock from its first step on, so that the others use
the lock as if the thread were not there, and the wait ends only with as many exclusive holds as it gave
up (`suspension_of_stretch`). Only a wait whose deadline the clock cannot tell is over before it gives
anything up: it panics.

The number of these holds is not in the book of the lock in the meantime, but with the thread. What the
thread owes stays the same, whether it is parked at the condition, about to ask for the lock, or parked at
the lock (`course_of_owing`). Its handles stay the same too, and they account for the holds that it has
in the end.
-/

namespace Coordination.LockSystem

/-- A thread is the writer with some number of exclusive holds and no shared ones, and the others have no
holds. -/
structure Owns (system : LockSystem) (place : LockId) (thread : ThreadId) (holds : Nat) : Prop where
  writer : (system.locks.get place).book.writer = some thread
  writeHolds : (system.locks.get place).book.writeHolds = holds
  unread : (system.locks.get place).book.sharedHolds thread = 0
  others : ∀ other, other ≠ thread → (system.locks.get place).book.Holdless other

/-- How a wait goes on that has given a lock up, as long as it lasts. -/
structure Yields (place : LockId) (thread : ThreadId) (name : String) (first : Moment)
    (during : List Moment) : Prop where
  without : ∀ moment ∈ first :: during, (moment.after.locks.get place).book.Holdless thread
  /-- Any other thread gets the exclusive lock if the rest of them has no holds. -/
  writers : ∀ moment ∈ during, ∀ {pursuit}, moment.move.thread ≠ thread →
    (moment.before.activity moment.move.thread).Pursues pursuit → pursuit.lock = place →
      pursuit.request.writes = true →
        (∀ other, other ≠ thread → (moment.before.locks.get place).book.Holdless other) →
          (moment.after.locks.get place).book.writer = some moment.move.thread
  /-- Any other thread gets a shared hold if the rest of them neither has the exclusive lock nor queues
  for it, as long as the thread waits for the condition. -/
  readers : ∀ moment ∈ during, ∀ {pursuit}, moment.move.thread ≠ thread →
    (moment.before.activity moment.move.thread).Pursues pursuit → pursuit.lock = place →
      pursuit.request = .shared → moment.before.Waits name thread →
        (∀ other, other ≠ thread → other ≠ moment.move.thread →
          (moment.before.locks.get place).book.writer ≠ some other ∧ other ∉ moment.before.queue place) →
          0 < (moment.after.locks.get place).book.sharedHolds moment.move.thread

/-- How a wait ends that has given a lock up. -/
structure Regains (place : LockId) (thread : ThreadId) (first last : Moment) (reply : Reply) : Prop where
  waited : ∃ signalled, reply = .waited signalled
  owns : ∃ holds, 1 ≤ holds ∧ first.before.Owns place thread holds ∧ last.after.Owns place thread holds
  handles : last.after.handles thread = first.before.handles thread

/-- What the waits for conditions in a list of moments do to the locks. -/
structure Suspension (moments : List Moment) : Prop where
  /-- A wait is refused exactly to a thread that has shared holds too, and the refusal changes nothing. -/
  refuses : ∀ moment ∈ moments, ∀ {thread id name timeout place parent},
    moment.move = .begin thread (.wait id name timeout) →
      (moment.before.handles thread).get? id = some (.exclusive place true parent) →
        let held := (moment.before.locks.get place).book.sharedHolds thread
        (∀ error, moment.reply = some (.refused error) ↔
          timeout.all (·.fits moment.now) = true ∧ 1 ≤ held ∧ error = .upgradeNotPermitted held) ∧
            (1 ≤ held → moment.before.Alike moment.after)
  /-- A wait whose deadline the clock cannot tell panics before it touches anything. -/
  panics : ∀ moment ∈ moments, ∀ {thread id name timeout place parent},
    moment.move = .begin thread (.wait id name timeout) →
      (moment.before.handles thread).get? id = some (.exclusive place true parent) →
        timeout.all (·.fits moment.now) = false →
          moment.reply = some (.panicked Duration.overflowText) ∧ moment.before.Alike moment.after
  released : ∀ moment ∈ moments, ∀ {thread id name timeout place parent},
    moment.move = .begin thread (.wait id name timeout) →
      (moment.before.handles thread).get? id = some (.exclusive place false parent) →
        moment.reply = some (.refused (.illegalUpgradeState "exclusive handle already released")) ∧
          moment.before.Alike moment.after
  /-- Any other wait gives the lock up, and leaves nobody with a hold on it. -/
  suspends : ∀ moment ∈ moments, ∀ {thread id name timeout place parent},
    moment.move = .begin thread (.wait id name timeout) →
      (moment.before.handles thread).get? id = some (.exclusive place true parent) →
        (moment.before.locks.get place).book.sharedHolds thread = 0 →
          timeout.all (·.fits moment.now) = true →
            moment.reply = none ∧ moment.after.Waits name thread ∧
              (∀ other, (moment.after.locks.get place).book.Holdless other) ∧
                ∀ other, place ≠ other → moment.after.locks.get other = moment.before.locks.get other
  yields : ∀ {thread id name timeout place parent first during},
    Pends moments thread (.wait id name timeout) first during →
      (first.before.handles thread).get? id = some (.exclusive place true parent) →
        (first.before.locks.get place).book.sharedHolds thread = 0 →
          timeout.all (·.fits first.now) = true → Yields place thread name first during
  /-- However it ends, it gets the lock back. -/
  regains : ∀ {thread id name timeout place parent first during last reply},
    Spans moments thread (.wait id name timeout) first during last reply →
      (first.before.handles thread).get? id = some (.exclusive place true parent) →
        (first.before.locks.get place).book.sharedHolds thread = 0 →
          timeout.all (·.fits first.now) = true → Regains place thread first last reply

variable {system final : LockSystem} {thread : ThreadId} {now : Instant} {move : Move}
  {stepped : Stepped} {id : HandleId} {place : LockId} {parent : Option HandleId} {name : String}
  {timeout : Option Duration}

section Suspending

/-- A thread with a held exclusive handle is the writer. -/
theorem writer_of_get? (reachable : system.Reachable) (idle : system.activity thread = .idle)
    (found : (system.handles thread).get? id = some (.exclusive place true parent)) :
    (system.locks.get place).book.writer = some thread :=
  (accounts_of_reachable reachable).writer_of_held (queues_of_reachable reachable) idle found

theorem owns_of_writer (reachable : system.Reachable)
    (writer : (system.locks.get place).book.writer = some thread)
    (unread : (system.locks.get place).book.sharedHolds thread = 0) :
    system.Owns place thread ((system.locks.get place).book.exclusiveHolds thread) where
  writer := writer
  writeHolds := by rw [Book.exclusiveHolds, if_pos writer]
  unread := unread
  others other apart := by
    have sound := ((queues_of_reachable reachable).sound place).book
    refine ⟨sound.alone writer apart, ?_⟩
    rw [Book.exclusiveHolds, writer, if_neg (by simpa using apart.symm)]

theorem refuses_of_perform (reachable : system.Reachable)
    (performed : system.perform now (.begin thread (.wait id name timeout)) = some stepped)
    (found : (system.handles thread).get? id = some (.exclusive place true parent))
    (reads : 1 ≤ (system.locks.get place).book.sharedHolds thread)
    (fits : timeout.all (·.fits now) = true) :
    stepped.reply
        = some (.refused (.upgradeNotPermitted ((system.locks.get place).book.sharedHolds thread))) ∧
      system.Alike stepped.state := by
  have idle := idle_of_begin performed
  have free := free_of_exclusive reachable found
  have refused : (system.locks.get place).suspend thread
      = .error (.upgradeNotPermitted ((system.locks.get place).book.sharedHolds thread)) :=
    if_pos reads
  rw [(begins_of_perform performed).unique (.refuseWait name found free fits refused)]
  exact ⟨rfl, alike_finish idle _ _⟩

theorem panics_of_perform (reachable : system.Reachable)
    (performed : system.perform now (.begin thread (.wait id name timeout)) = some stepped)
    (found : (system.handles thread).get? id = some (.exclusive place true parent))
    (endless : timeout.all (·.fits now) = false) :
    stepped.reply = some (.panicked Duration.overflowText) ∧ system.Alike stepped.state := by
  have idle := idle_of_begin performed
  have free := free_of_exclusive reachable found
  rw [(begins_of_perform performed).unique (.overflowWait name found free endless)]
  exact ⟨rfl, alike_finish idle _ _⟩

theorem released_of_perform (reachable : system.Reachable)
    (performed : system.perform now (.begin thread (.wait id name timeout)) = some stepped)
    (found : (system.handles thread).get? id = some (.exclusive place false parent)) :
    stepped.reply = some (.refused (.illegalUpgradeState "exclusive handle already released")) ∧
      system.Alike stepped.state := by
  have idle := idle_of_begin performed
  have free := free_of_exclusive reachable found
  rw [(begins_of_perform performed).unique (.waitReleased name timeout found free)]
  exact ⟨rfl, alike_finish idle _ _⟩

theorem suspends_of_perform (reachable : system.Reachable)
    (performed : system.perform now (.begin thread (.wait id name timeout)) = some stepped)
    (found : (system.handles thread).get? id = some (.exclusive place true parent))
    (unread : (system.locks.get place).book.sharedHolds thread = 0)
    (fits : timeout.all (·.fits now) = true) :
    stepped.reply = none ∧
      stepped.state.threads.get thread = ⟨system.handles thread,
        .waiting place name ((system.locks.get place).book.exclusiveHolds thread)⟩ ∧
      (∀ other, (stepped.state.locks.get place).book.Holdless other) ∧
      ∀ other, place ≠ other → stepped.state.locks.get other = system.locks.get other := by
  have idle := idle_of_begin performed
  have writer := writer_of_get? reachable idle found
  have owns := owns_of_writer reachable writer unread
  have suspended := Lock.suspend_eq_ok_iff.mpr ⟨unread, writer, rfl, rfl⟩
  have gives := Lock.gives_suspend ((queues_of_reachable reachable).sound place) suspended
  have free := free_of_exclusive reachable found
  rw [(begins_of_perform performed).unique (.wait name found free fits suspended), ← owns.writeHolds]
  refine ⟨rfl, by simp [carryOn, handles], ?_, ?_⟩
  · intro other
    simp only [carryOn, locks_turnTo, locks_setCondition, get_locks_setLock, if_true, Book.Holdless,
      gives.sharedHolds, gives.exclusiveHolds]
    by_cases own : thread = other
    · subst own
      simp [unread, Book.exclusiveHolds, writer]
    · rcases owns.others other (Ne.symm own) with ⟨shared, exclusive⟩
      simp [shared, exclusive]
  · intro other apart
    simp [carryOn, apart]

end Suspending

section Resuming

variable {handles : Handles} {holds : Nat}

theorem Pursuit.Suits.resumes {pursuit : Pursuit} {handles : Handles} {holds : Nat}
    (suits : pursuit.Suits handles) (request : pursuit.request = .resume holds) :
    (∃ signalled, pursuit.purpose = .resume signalled) ∧ pursuit.deadline = none := by
  cases purpose : pursuit.purpose with
  | resume signalled => simp_all [Pursuit.Suits]
  | _ => simp_all [Pursuit.Suits]

theorem Activity.Pursues.resume_of_owes {activity : Activity} {pursuit : Pursuit}
    (pursues : activity.Pursues pursuit) (owes : activity.owes = some (place, holds)) :
    pursuit.lock = place ∧ pursuit.request = .resume holds := by
  rcases pursues with rfl | rfl <;> cases request : pursuit.request <;>
    simp_all [Activity.owes]

/-- A thread that waits for a condition stays there or goes on to get its holds back. -/
theorem owes_of_waiting (performed : system.perform now move = some stepped) (own : move.thread = thread)
    (waiting : system.activity thread = .waiting place name holds) :
    stepped.reply = none ∧ stepped.state.handles thread = system.handles thread ∧
      (stepped.state.activity thread).owes = some (place, holds) := by
  subst own
  rcases perform_transition performed with ⟨change, transition, stores⟩
  rw [stores.reply, handles, activity, stores.own]
  cases transition with
  | turn after reply before plain =>
      rw [waiting] at before
      cases before
  | stay => exact ⟨rfl, rfl, congrArg Activity.owes waiting⟩
  | leave signalled since here =>
      cases waiting.symm.trans here
      exact ⟨rfl, rfl, rfl⟩
  | discard idle | releaseShared _ idle | releaseExclusive _ idle | releaseChild _ _ idle
  | upgrade _ idle | wait _ idle => cases waiting.symm.trans idle
  | park attempt | timeOut attempt | refuse attempt | refuseUpgrade _ attempt | acquire attempt
  | makeChild attempt | recover attempt | restore attempt | resume attempt =>
      rcases attempt.activity with asking | parked
      · cases waiting.symm.trans asking
      · cases waiting.symm.trans parked

/-- A thread that wants some exclusive holds back wants the same ones until it has them. -/
theorem course_of_owing (handles : Handles) (place : LockId) (holds : Nat) (thread : ThreadId) :
    Course thread
      (fun state => state.handles = handles ∧ state.activity.owes = some (place, holds))
      (fun reply state => state = ⟨handles, .idle⟩ ∧ ∃ signalled, reply = .waited signalled) := by
  refine ⟨?_⟩
  rintro system now move stepped reachable ⟨rfl, owes⟩ performed own
  have pursuing {pursuit : Pursuit} (pursues : (system.activity thread).Pursues pursuit) :
      stepped.reply = none ∧
          (stepped.state.threads.get thread).handles = (system.threads.get thread).handles ∧
          (stepped.state.threads.get thread).activity.owes = some (place, holds) ∨
        ∃ reply, stepped.reply = some reply ∧
          stepped.state.threads.get thread = ⟨(system.threads.get thread).handles, .idle⟩ ∧
          ∃ signalled, reply = .waited signalled := by
    have resumes := pursues.resume_of_owes owes
    rcases ((accounts_of_reachable reachable thread).suits pursuit pursues).resumes resumes.2 with
      ⟨⟨signalled, purpose⟩, patient⟩
    rcases patient_cases reachable performed own pursues patient with
      ⟨silent, again⟩ | ⟨replies, ends⟩ | ⟨refused, _⟩
    · rw [again]
      exact Or.inl ⟨silent, rfl, by simp [Activity.owes, resumes.1, resumes.2]⟩
    · rw [replies, ends]
      simp only [Pursuit.grants, purpose]
      exact Or.inr ⟨_, rfl, rfl, signalled, rfl⟩
    · cases resumes.2.symm.trans refused
  cases doing : system.activity thread with
  | idle | notifying =>
      have none := congrArg Activity.owes doing
      cases none.symm.trans owes
  | waiting condition name some =>
      have waits := congrArg Activity.owes doing
      cases waits.symm.trans owes
      exact Or.inl (owes_of_waiting performed own doing)
  | asking pursuit => exact pursuing (Or.inl doing)
  | parked pursuit => exact pursuing (Or.inr doing)

end Resuming

section Meanwhile

variable {pursuit : Pursuit}

/-- A thread without holds does not keep a writer out. -/
theorem writer_of_holdless (reachable : system.Reachable)
    (performed : system.perform now move = some stepped)
    (pursues : (system.activity move.thread).Pursues pursuit) (writes : pursuit.request.writes = true)
    (holdless : ∀ other, (system.locks.get pursuit.lock).book.Holdless other) :
    (stepped.state.locks.get pursuit.lock).book.writer = some move.thread := by
  have queues := queues_of_reachable reachable
  have sound := (queues.sound pursuit.lock).book
  have free := (Book.canWrite_iff sound).mpr holdless
  have unowned := Book.writer_ne_of_holdless sound (holdless move.thread)
  rcases grants_of_perform reachable performed pursues (fun _ => unowned)
    (by simp [Book.admits, writes, free]) with ⟨result, attempt, granted, same⟩
  rw [same]
  exact attempt.writer queues granted writes

/-- A thread that is neither the writer nor queues does not keep a reader out. -/
theorem reads_of_vacant (reachable : system.Reachable)
    (performed : system.perform now move = some stepped)
    (pursues : (system.activity move.thread).Pursues pursuit) (request : pursuit.request = .shared)
    (vacant : ∀ other, other ≠ move.thread →
      (system.locks.get pursuit.lock).book.writer ≠ some other ∧ other ∉ system.queue pursuit.lock) :
    0 < (stepped.state.locks.get pursuit.lock).book.sharedHolds move.thread := by
  have queues := queues_of_reachable reachable
  have unqueued : system.queue pursuit.lock = ∅ := by
    rw [Set.eq_empty_iff_forall_notMem]
    intro other queued
    by_cases own : other = move.thread
    · subst own
      rcases queued with ⟨next, parked, _, writes⟩
      cases pursues.unique (Or.inr parked)
      simp [request, Request.writes] at writes
    · exact (vacant other own).2 queued
  have nobody : (system.locks.get pursuit.lock).book.waitingWriters = 0 := by
    have length := queues.encard_queue pursuit.lock
    rw [unqueued, Set.encard_empty] at length
    exact_mod_cast length.symm
  have admitted : (system.locks.get pursuit.lock).book.admits move.thread pursuit.request = true := by
    cases writer : (system.locks.get pursuit.lock).book.writer with
    | none => simp [Book.admits, request, Request.writes, Book.canRead, writer, nobody]
    | some owner =>
        have own : owner = move.thread := by
          by_contra apart
          exact (vacant owner apart).1 writer
        simp [Book.admits, request, Request.writes, Book.canRead, writer, own]
  rcases grants_of_perform reachable performed pursues (by simp [request]) admitted with
    ⟨result, attempt, granted, same⟩
  rw [same]
  exact attempt.reads queues granted request

theorem not_mem_queue_of_waits (waits : system.Waits name thread) (id : LockId) :
    thread ∉ system.queue id := by
  rcases waits with ⟨_, _, waiting⟩
  rintro ⟨pursuit, parked, _⟩
  cases waiting.symm.trans parked

end Meanwhile

theorem yields_of_pends {moments during : List Moment} {first : Moment} (reachable : system.Reachable)
    (stretch : Stretch system moments final)
    (pends : Pends moments thread (.wait id name timeout) first during)
    (found : (first.before.handles thread).get? id = some (.exclusive place true parent))
    (unread : (first.before.locks.get place).book.sharedHolds thread = 0)
    (fits : timeout.all (·.fits first.now) = true) :
    Yields place thread name first during := by
  rcases pends.begun reachable stretch with ⟨began, stepped, performed, after⟩
  have continues (moment : Moment) (mem : moment ∈ during) :=
    stretch.happens reachable moment (pends.mem.2 moment mem)
  have parks := (suspends_of_perform began.reachable performed found unread fits).2.1
  rw [← after] at parks
  have amid := (course_of_owing (first.before.handles thread) place _ thread).pends reachable stretch
    pends (by rw [parks]; exact ⟨rfl, rfl⟩)
  have without {middle : LockSystem} (reached : middle.Reachable) {owed : Nat}
      (owes : (middle.activity thread).owes = some (place, owed)) :
      (middle.locks.get place).book.Holdless thread :=
    ((queues_of_reachable reached).owing thread place owed owes).2
  refine ⟨?_, ?_, ?_⟩
  · intro moment mem
    rcases List.mem_cons.mp mem with rfl | later
    · exact without began.after (by rw [activity, parks]; rfl)
    · exact without (continues moment later).after (amid moment later).2.2
  · rintro ⟨before, now, move, after, reply⟩ mem pursuit apart pursues rfl writes others
    rcases continues _ mem with ⟨reached, stepped, performed, rfl, rfl⟩
    refine writer_of_holdless reached performed pursues writes fun other => ?_
    by_cases same : other = thread
    · exact same ▸ without reached (amid _ mem).1.2
    · exact others other same
  · rintro ⟨before, now, move, after, reply⟩ mem pursuit apart pursues rfl request waits others
    rcases continues _ mem with ⟨reached, stepped, performed, rfl, rfl⟩
    refine reads_of_vacant reached performed pursues request fun other away => ?_
    by_cases same : other = thread
    · subst same
      have sound := ((queues_of_reachable reached).sound pursuit.lock).book
      exact ⟨Book.writer_ne_of_holdless sound (without reached (amid _ mem).1.2),
        not_mem_queue_of_waits waits _⟩
    · exact others other same away

theorem regains_of_spans {moments during : List Moment} {first last : Moment} {reply : Reply}
    (reachable : system.Reachable) (stretch : Stretch system moments final)
    (spans : Spans moments thread (.wait id name timeout) first during last reply)
    (found : (first.before.handles thread).get? id = some (.exclusive place true parent))
    (unread : (first.before.locks.get place).book.sharedHolds thread = 0)
    (fits : timeout.all (·.fits first.now) = true) :
    Regains place thread first last reply := by
  rcases spans.pends.begun reachable stretch with ⟨began, stepped, performed, after⟩
  have ended := (stretch.happens reachable last spans.mem.2.2).after
  have idle := idle_of_begin performed
  have writer := writer_of_get? began.reachable idle found
  have parks := (suspends_of_perform began.reachable performed found unread fits).2.1
  rw [← after] at parks
  rcases (course_of_owing (first.before.handles thread) place _ thread).spans reachable stretch spans
    (by rw [parks]; exact ⟨rfl, rfl⟩) with ⟨_, ends, waited⟩
  have rests : last.after.activity thread = .idle := by rw [activity, ends]
  have kept : last.after.handles thread = first.before.handles thread := by rw [handles, ends]
  have holds := holds_of_handles began.reachable ended idle rests kept place
  have sound := ((queues_of_reachable began.reachable).sound place).book
  have sound' := ((queues_of_reachable ended).sound place).book
  have held := (Book.exclusiveHolds_pos_iff sound thread).mpr writer
  refine ⟨waited, ⟨_, held, owns_of_writer began.reachable writer unread, ?_⟩, kept⟩
  rw [← holds.2] at held ⊢
  exact owns_of_writer ended ((Book.exclusiveHolds_pos_iff sound' thread).mp held)
    (holds.1.trans unread)

/-- **Waiting gives a lock up and gets it back**, in every schedule: with all the exclusive holds that the
thread had, whether there is a signal or not, and whatever the others do in between. -/
theorem suspension_of_stretch {moments : List Moment} (reachable : system.Reachable)
    (stretch : Stretch system moments final) : Suspension moments := by
  have happens := stretch.happens reachable
  refine ⟨?_, ?_, ?_, ?_,
    fun pends found unread fits => yields_of_pends reachable stretch pends found unread fits,
    fun spans found unread fits => regains_of_spans reachable stretch spans found unread fits⟩
  · rintro ⟨before, now, move, after, reply⟩ mem thread id name timeout place parent rfl found
    rcases happens _ mem with ⟨reached, stepped, performed, rfl, rfl⟩
    cases fits : timeout.all (·.fits now) with
    | false =>
        rcases panics_of_perform reached performed found fits with ⟨panicked, alike⟩
        refine ⟨fun error => ?_, fun _ => alike⟩
        simp [panicked]
    | true =>
        by_cases reads : 1 ≤ (before.locks.get place).book.sharedHolds thread
        · rcases refuses_of_perform reached performed found reads fits with ⟨refused, alike⟩
          refine ⟨fun error => ?_, fun _ => alike⟩
          simp only [refused, Option.some.injEq, Reply.refused.injEq, reads, true_and]
          exact eq_comm
        · have unread : (before.locks.get place).book.sharedHolds thread = 0 := by omega
          refine ⟨fun error => ?_, fun some => absurd some reads⟩
          simp [(suspends_of_perform reached performed found unread fits).1, unread]
  · rintro ⟨before, now, move, after, reply⟩ mem thread id name timeout place parent rfl found endless
    rcases happens _ mem with ⟨reached, stepped, performed, rfl, rfl⟩
    exact panics_of_perform reached performed found endless
  · rintro ⟨before, now, move, after, reply⟩ mem thread id name timeout place parent rfl found
    rcases happens _ mem with ⟨reached, stepped, performed, rfl, rfl⟩
    exact released_of_perform reached performed found
  · rintro ⟨before, now, move, after, reply⟩ mem thread id name timeout place parent rfl found unread
      fits
    rcases happens _ mem with ⟨reached, stepped, performed, rfl, rfl⟩
    rcases suspends_of_perform reached performed found unread fits with ⟨silent, parks, vacant, elsewhere⟩
    exact ⟨silent, ⟨place, _, congrArg Thread.activity parks⟩, vacant, elsewhere⟩

/-- A thread that is the writer twice, by an upgrade, waits for a condition, and another one does so after
it. A reader comes and goes, and the second thread has the lock once more before the first one has. Two
more waits of the first thread are refused: it reads, and then its handle is released. -/
def yielding : List (Instant × Move) :=
  [.begin 0 (.shared 0 none), .proceed 0, .begin 0 (.upgrade 0), .proceed 0,
    .begin 0 (.exclusive 0 none), .proceed 0, .begin 0 (.wait 2 "ready" (some ⟨5⟩)),
    .begin 1 (.exclusive 0 none), .proceed 1, .begin 1 (.wait 3 "ready" none),
    .begin 2 (.shared 0 none), .proceed 2, .begin 3 (.signal "ready" true), .proceed 3,
    .wake 0, .proceed 0, .begin 2 (.drop 4), .wake 1, .proceed 1, .wake 0, .begin 1 (.drop 3),
    .wake 0, .begin 0 (.shared 0 none), .proceed 0, .begin 0 (.wait 2 "ready" none),
    .begin 0 (.release 2), .begin 0 (.wait 2 "ready" none)].map (0, ·)

theorem suspension_of_yielding :
    let moments := trace {} yielding
    Reachable {} ∧ Suspension moments ∧
      moments.filterMap (·.reply) = [.handle 0, .handle 1, .handle 2, .handle 3, .handle 4, .done,
        .done, .waited true, .done, .waited true, .handle 5, .refused (.upgradeNotPermitted 1), .done,
        .refused (.illegalUpgradeState "exclusive handle already released")] ∧
      ∃ first during last,
        Spans moments 0 (.wait 2 "ready" (some ⟨5⟩)) first during last (.waited true) ∧
          Yields 0 0 "ready" first during ∧ Regains 0 0 first last (.waited true) := by
  intro moments
  have suspension : Suspension moments :=
    suspension_of_stretch ⟨[], run_empty⟩ (stretch_follow {} yielding)
  have spans : Spans moments 0 (.wait 2 "ready" (some ⟨5⟩)) (moments.get ⟨6, by decide⟩)
      ((moments.drop 7).take 14) (moments.get ⟨21, by decide⟩) (.waited true) :=
    ⟨⟨moments.take 6, moments.drop 22, rfl⟩, by decide, by decide, by decide, by decide⟩
  have found : ((moments.get ⟨6, by decide⟩).before.handles 0).get? 2 = some (.exclusive 0 true none) := by
    decide
  exact ⟨⟨[], run_empty⟩, suspension, by decide, _, _, _, spans,
    suspension.yields spans.pends found (by decide) (by decide),
    suspension.regains spans found (by decide) (by decide)⟩

end Coordination.LockSystem
