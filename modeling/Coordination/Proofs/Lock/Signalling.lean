import Coordination.Proofs.Lock.Conditions
import Coordination.Proofs.Lock.Moments

/-!
# No signal is lost

A thread that waits for a condition keeps the generation that it saw when it gave its holds up, and it
looks whether there is another one. Since only signals begin generations, and the generations grow, the
last look of a wait tells whether a signal came between the two (`ends_of_lodges`), whoever sent it,
whenever the sender gets round to notifying, and whatever the other waiting threads do meanwhile.

A thread that is parked when a signal comes does not park again: its next look is its last one
(`leaves_of_looks`). It is not left parked either. A notification of all finds everyone who has not left
yet. A notification of one is for the thread that is parked longest: those who park meanwhile do so
behind it, so it is still first in line when the notification comes, unless it has left or has been
notified by another signal (`woken_of_due`).
-/

namespace Coordination.LockSystem

namespace Moment

/-- A thread that is parked at a condition wakes up, with or without a reason, and looks there. -/
def Looks (moment : Moment) (thread : ThreadId) (name : String) : Prop :=
  (moment.move = .wake thread ∨ moment.move = .expire thread) ∧ moment.before.Waits name thread

/-- The look is the last one of its wait. -/
def Leaves (moment : Moment) (thread : ThreadId) (name : String) (signalled : Bool) : Prop :=
  moment.Looks thread name ∧ ∃ place holds,
    moment.after.activity thread = .asking (resumption place holds signalled moment.now)

/-- A thread wakes up since the deadline of a wait has passed. -/
def Expires (moment : Moment) (thread : ThreadId) (timeout : Option Duration) (since : Instant) : Prop :=
  moment.move = .expire thread ∧ ∃ limit, timeout = some limit ∧ limit.after since ≤ moment.now

end Moment

/-- How a wait ends that has begun at some instant: the moments before the last look, the look, and the
moments after it, in which the thread gets its holds back. -/
structure Concludes (thread : ThreadId) (name : String) (timeout : Option Duration) (since : Instant)
    (before : List Moment) (look : Moment) (after : List Moment) (signalled : Bool) : Prop where
  leaves : look.Leaves thread name signalled
  last : ∀ moment ∈ after, ¬moment.Looks thread name
  /-- The reply says whether there was a signal since the thread parked. -/
  exact : signalled = true ↔ ∃ moment ∈ before, moment.move.raises name = true
  /-- A signal counts, whoever sends it, unless it comes after the deadline has ended the wait. -/
  counts : ∀ moment ∈ before ++ look :: after, moment.move.raises name = true →
    signalled = true ∨ moment ∈ after ∧ look.Expires thread timeout since
  expired : signalled = false → look.Expires thread timeout since
  untimed : timeout = none → ∃ moment ∈ before, moment.move.raises name = true

/-- A sleeper has left because of a signal, or it has been notified and is about to look. -/
def Woken (name : String) (sleeper : Sleeper) (during : List Moment) (after : LockSystem) : Prop :=
  (∃ moment ∈ during, moment.Leaves sleeper.thread name true) ∨
    (after.conditions.get name).sleeper? sleeper.thread = some sleeper.roused

/-- What the waits for conditions and the signals in a list of moments have to do with each other. -/
structure Signalling (moments : List Moment) : Prop where
  /-- To park is to give the exclusive lock up: whoever has it afterwards has got it since. -/
  suspends : ∀ moment ∈ moments, ∀ {thread operation place name holds},
    moment.move = .begin thread operation → moment.after.activity thread = .waiting place name holds →
      (moment.before.locks.get place).book.writer = some thread ∧
        (moment.after.locks.get place).book.writer = none
  /-- Only the first step of a signal begins a generation. -/
  generations : ∀ moment ∈ moments, ∀ name,
    (moment.after.conditions.get name).generation
      = (moment.before.conditions.get name).generation + if moment.move.raises name then 1 else 0
  waits : ∀ {thread id name timeout first during last reply},
    Spans moments thread (.wait id name timeout) first during last reply →
      first.after.Waits name thread → ∃ before look after signalled,
        during = before ++ look :: after ∧ reply = .waited signalled ∧
          Concludes thread name timeout first.now before look after signalled
  /-- Who is parked when a signal comes looks once more and leaves. -/
  leaves : ∀ {earlier raise during look later name},
    moments = earlier ++ raise :: during ++ look :: later → raise.move.raises name = true →
      ∀ sleeper ∈ (raise.before.conditions.get name).sleepers, look.Looks sleeper.thread name →
        (∀ moment ∈ during, ¬moment.Looks sleeper.thread name) → look.Leaves sleeper.thread name true
  all : ∀ {thread name first during last reply},
    Spans moments thread (.signal name true) first during last reply →
      ∀ sleeper ∈ (first.before.conditions.get name).sleepers, Woken name sleeper during last.after
  one : ∀ {thread name first during last reply},
    Spans moments thread (.signal name false) first during last reply →
      (∃ sleeper ∈ (first.before.conditions.get name).sleepers, sleeper.notified = false) →
        ∃ sleeper ∈ (first.before.conditions.get name).sleepers, sleeper.notified = false ∧
          Woken name sleeper during last.after

variable {system final : LockSystem} {now : Instant} {move : Move} {stepped : Stepped} {name : String}
  {thread : ThreadId} {sleeper : Sleeper}

section Resuming

/-- A thread has looked for the last time and wants its holds back. -/
def Resumes (system : LockSystem) (thread : ThreadId) (signalled : Bool) : Prop :=
  ∃ place holds since, (system.activity thread).Pursues (resumption place holds signalled since)

theorem Resumes.not_waits {signalled : Bool} (resumes : system.Resumes thread signalled) :
    ¬system.Waits name thread := by
  rintro ⟨place, holds, waiting⟩
  rcases resumes with ⟨_, _, _, asking | parked⟩
  · cases asking.symm.trans waiting
  · cases parked.symm.trans waiting

/-- A thread that wants its holds back gets them, with no other reply than that its wait is over. -/
theorem Resumes.step {signalled : Bool} (resumes : system.Resumes thread signalled)
    (reachable : system.Reachable) (performed : system.perform now move = some stepped)
    (own : move.thread = thread) :
    stepped.state.Resumes thread signalled ∧ stepped.reply = none ∨
      stepped.reply = some (.waited signalled) := by
  rcases resumes with ⟨place, holds, since, pursues⟩
  have busy : ∀ operation, move ≠ .begin thread operation := by
    rintro operation rfl
    rw [idle_of_begin performed] at pursues
    rcases pursues with impossible | impossible <;> cases impossible
  rcases settles_of_perform pursues performed own busy with ⟨⟨lock, outcome⟩, attempt, rfl⟩
  cases outcome with
  | granted | reentered => exact Or.inr rfl
  | refused error => cases attempt.request_of_refused rfl
  | timedOut => exact absurd rfl ((queues_of_reachable reachable).deadline_ne_none attempt rfl)
  | parked => exact Or.inl ⟨⟨place, holds, since, Or.inr (activity_carryOn _ _)⟩, rfl⟩

theorem Resumes.of_ne {signalled : Bool} (resumes : system.Resumes thread signalled)
    (performed : system.perform now move = some stepped) (apart : move.thread ≠ thread) :
    stepped.state.Resumes thread signalled := by
  rcases resumes with ⟨place, holds, since, pursues⟩
  refine ⟨place, holds, since, ?_⟩
  rw [activity_of_ne performed apart]
  exact pursues

theorem Resumes.reply (name : String) {signalled : Bool} {during later : List Moment} {last : Moment}
    {reply : Reply} (resumes : system.Resumes thread signalled) (reachable : system.Reachable)
    (stretch : Stretch system (during ++ last :: later) final)
    (pending : ∀ moment ∈ during, moment.move.thread = thread → moment.reply = none)
    (own : last.move.thread = thread) (replies : last.reply = some reply) :
    (∀ moment ∈ during, ¬moment.Looks thread name) ∧ reply = .waited signalled := by
  induction during generalizing system with
  | nil =>
      refine ⟨fun moment mem => absurd mem List.not_mem_nil, ?_⟩
      cases stretch with
      | step performed rest =>
          rcases resumes.step reachable performed own with ⟨_, none⟩ | done
          · cases none.symm.trans replies
          · cases done.symm.trans replies
            rfl
  | cons moment rest ih =>
      cases stretch with
      | @step _ _ now move stepped _ performed following =>
          have still : stepped.state.Resumes thread signalled := by
            by_cases mine : move.thread = thread
            · rcases resumes.step reachable performed mine with ⟨still, _⟩ | done
              · exact still
              · cases done.symm.trans (pending _ List.mem_cons_self mine)
            · exact resumes.of_ne performed mine
          rcases ih still (reachable.step performed) following
            fun other mem => pending other (List.mem_cons_of_mem _ mem) with ⟨away, ends⟩
          refine ⟨?_, ends⟩
          intro other mem
          rcases List.mem_cons.mp mem with rfl | listed
          · exact fun looks => resumes.not_waits looks.2
          · exact away other listed

end Resuming

section Looking

/-- A sleeper looks with its next step: it has not seen a signal and parks again, or it leaves. -/
theorem looks_of_perform (reachable : system.Reachable)
    (performed : system.perform now move = some stepped)
    (lodges : (system.conditions.get name).Lodges sleeper) (own : move.thread = sleeper.thread) :
    (system.conditions.get name).generation = sleeper.observed ∧
        (stepped.state.conditions.get name).Lodges sleeper ∧ move.raises name = false ∧
        stepped.reply = none ∨
      ∃ signalled, (signalled = true ↔ (system.conditions.get name).generation ≠ sleeper.observed) ∧
        (signalled = false → move = .expire sleeper.thread ∧ isOver sleeper.deadline now = true) ∧
        Moment.Leaves ⟨system, now, move, stepped.state, stepped.reply⟩ sleeper.thread name signalled ∧
        stepped.state.Resumes sleeper.thread signalled ∧ stepped.reply = none := by
  rcases (sleeping_of_reachable reachable).looks performed lodges own with ⟨waits, looks⟩
  rw [own] at waits
  cases looks with
  | stay unseen still reply => exact Or.inl ⟨unseen, still, rfl, reply⟩
  | @leave _ place holds signalled look seen activity reply =>
      refine Or.inr ⟨signalled, seen, ?_, ⟨⟨?_, waits⟩, place, holds, activity⟩,
        ⟨place, holds, now, Or.inl activity⟩, reply⟩
      · rintro rfl
        rcases look with ⟨impossible, _⟩ | expires
        · cases impossible
        · exact expires
      · exact look.imp (·.2) (·.1)

/-- The rest of a wait, from a state in which the thread is parked. -/
structure Ends (system : LockSystem) (name : String) (sleeper : Sleeper) (before : List Moment)
    (look : Moment) (after : List Moment) (signalled : Bool) : Prop where
  leaves : look.Leaves sleeper.thread name signalled
  last : ∀ moment ∈ after, ¬moment.Looks sleeper.thread name
  exact : signalled = true ↔ (system.conditions.get name).generation ≠ sleeper.observed ∨
    ∃ moment ∈ before, moment.move.raises name = true
  expired : signalled = false →
    look.move = .expire sleeper.thread ∧ isOver sleeper.deadline look.now = true

theorem Ends.cons {before after : List Moment} {look : Moment} {signalled : Bool}
    (ends : Ends stepped.state name sleeper before look after signalled)
    (performed : system.perform now move = some stepped)
    (past : sleeper.observed ≤ (system.conditions.get name).generation) :
    Ends system name sleeper (⟨system, now, move, stepped.state, stepped.reply⟩ :: before) look after
      signalled := by
  refine ⟨ends.leaves, ends.last, ?_, ends.expired⟩
  have generation := (perform_affects performed).generation name
  simp only [ends.exact, List.mem_cons, exists_eq_or_imp, ← or_assoc, generation]
  refine or_congr_left ?_
  cases raises : move.raises name with
  | true => simp; omega
  | false => simp

theorem ends_of_lodges {during later : List Moment} {last : Moment} {reply : Reply}
    (reachable : system.Reachable) (lodges : (system.conditions.get name).Lodges sleeper)
    (stretch : Stretch system (during ++ last :: later) final)
    (pending : ∀ moment ∈ during, moment.move.thread = sleeper.thread → moment.reply = none)
    (own : last.move.thread = sleeper.thread) (replies : last.reply = some reply) :
    ∃ before look after signalled, during = before ++ look :: after ∧ reply = .waited signalled ∧
      Ends system name sleeper before look after signalled := by
  induction during generalizing system with
  | nil =>
      cases stretch with
      | step performed rest =>
          -- A look has no reply, so the reply is not the next thing that the thread does.
          rcases looks_of_perform reachable performed lodges own with
            ⟨_, _, _, none⟩ | ⟨_, _, _, _, _, none⟩
          · cases none.symm.trans replies
          · cases none.symm.trans replies
  | cons moment rest ih =>
      have past := (sleeping_of_reachable reachable name).observed_le lodges
      have pendingRest : ∀ moment ∈ rest, moment.move.thread = sleeper.thread → moment.reply = none :=
        fun other mem => pending other (List.mem_cons_of_mem _ mem)
      cases stretch with
      | @step _ _ now move stepped _ performed following =>
          -- The wait goes on from a state in which the thread is still parked.
          have goesOn (still : (stepped.state.conditions.get name).Lodges sleeper) :
              ∃ before look after signalled,
                ⟨system, now, move, stepped.state, stepped.reply⟩ :: rest = before ++ look :: after ∧
                  reply = .waited signalled ∧ Ends system name sleeper before look after signalled := by
            rcases ih (reachable.step performed) still following pendingRest with
              ⟨before, look, after, signalled, rfl, answer, ends⟩
            exact ⟨_ :: before, look, after, signalled, rfl, answer, ends.cons performed past⟩
          by_cases mine : move.thread = sleeper.thread
          · rcases looks_of_perform reachable performed lodges mine with
              ⟨_, still, _, _⟩ | ⟨signalled, seen, expired, leaves, resumes, _⟩
            · exact goesOn still
            · rcases resumes.reply name (reachable.step performed) following pendingRest own replies with
                ⟨away, answer⟩
              exact ⟨[], _, rest, signalled, rfl, answer, leaves, away, by simpa using seen, expired⟩
          · exact goesOn ((perform_affects performed).lodges mine lodges)

theorem leaves_of_raised (reachable : system.Reachable)
    (performed : system.perform now move = some stepped)
    (lodges : (system.conditions.get name).Lodges sleeper)
    (raised : sleeper.observed < (system.conditions.get name).generation)
    (own : move.thread = sleeper.thread) :
    Moment.Leaves ⟨system, now, move, stepped.state, stepped.reply⟩ sleeper.thread name true := by
  rcases looks_of_perform reachable performed lodges own with
    ⟨unseen, _⟩ | ⟨signalled, seen, _, leaves, _⟩
  · exact absurd unseen (Nat.ne_of_gt raised)
  · rw [seen.mpr (Nat.ne_of_gt raised)] at leaves
    exact leaves

theorem raised_of_perform (performed : system.perform now move = some stepped)
    (raised : sleeper.observed < (system.conditions.get name).generation) :
    sleeper.observed < (stepped.state.conditions.get name).generation := by
  rw [(perform_affects performed).generation]
  omega

/-- A sleeper whose condition has been raised leaves with its next look. -/
theorem leaves_of_looks {during later : List Moment} {look : Moment} (reachable : system.Reachable)
    (lodges : (system.conditions.get name).Lodges sleeper)
    (raised : sleeper.observed < (system.conditions.get name).generation)
    (stretch : Stretch system (during ++ look :: later) final) (looks : look.Looks sleeper.thread name)
    (away : ∀ moment ∈ during, ¬moment.Looks sleeper.thread name) :
    look.Leaves sleeper.thread name true := by
  induction during generalizing system with
  | nil =>
      cases stretch with
      | step performed rest =>
          have own := looks.1.elim (congrArg Move.thread) (congrArg Move.thread)
          exact leaves_of_raised reachable performed lodges raised own
  | cons moment rest ih =>
      cases stretch with
      | @step _ _ now move stepped _ performed following =>
          have others : move.thread ≠ sleeper.thread := by
            intro mine
            exact away _ List.mem_cons_self (leaves_of_raised reachable performed lodges raised mine).1
          exact ih (reachable.step performed) ((perform_affects performed).lodges others lodges)
            (raised_of_perform performed raised) following
            fun other mem => away other (List.mem_cons_of_mem _ mem)

end Looking

section Notifying

theorem notifies_of_perform {all : Bool} (notifying : system.activity thread = .notifying name all)
    (performed : system.perform now move = some stepped) (own : move.thread = thread) :
    stepped.state.conditions.get name = (system.conditions.get name).notify all ∧
      stepped.reply = some .done := by
  subst own
  cases perform_affects performed with
  | raise idle | park idle => cases idle.symm.trans notifying
  | notify doing conditions activity done =>
      cases doing.symm.trans notifying
      exact ⟨by rw [conditions, Table.get_set_same], done⟩
  | stay waiting | leave waiting => cases waiting.symm.trans notifying
  | apart silent conditions before =>
      rw [notifying] at before
      cases before

/-- A sleeper that is due when a signal comes has left or is notified when the signal is complete. -/
theorem woken_of_due {all : Bool} {during later : List Moment} {last : Moment}
    (reachable : system.Reachable) (notifying : system.activity thread = .notifying name all)
    (due : (system.conditions.get name).Due all sleeper ∨
      sleeper.roused ∈ (system.conditions.get name).sleepers)
    (raised : sleeper.observed < (system.conditions.get name).generation)
    (stretch : Stretch system (during ++ last :: later) final)
    (pending : ∀ moment ∈ during, moment.move.thread = thread → moment.reply = none)
    (own : last.move.thread = thread) : Woken name sleeper during last.after := by
  induction during generalizing system with
  | nil =>
      cases stretch with
      | step performed rest =>
          have sound := sleeping_of_reachable (reachable.step performed) name
          refine Or.inr (sound.sleeper?_eq_some_iff.mpr ⟨?_, rfl⟩)
          rw [(notifies_of_perform notifying performed own).1]
          rcases due with due | roused
          · exact due.roused_mem
          · exact (Condition.mem_notify all roused).elim id id
  | cons moment rest ih =>
      have lodges := Condition.lodges_of_due due
      cases stretch with
      | @step _ _ now move stepped _ performed following =>
          have others : move.thread ≠ thread := by
            intro mine
            have none := pending _ List.mem_cons_self mine
            cases none.symm.trans (notifies_of_perform notifying performed mine).2
          -- Whoever is due stays due until it is notified, unless it looks before and leaves.
          by_cases mine : move.thread = sleeper.thread
          · exact Or.inl ⟨_, List.mem_cons_self,
              leaves_of_raised reachable performed lodges raised mine⟩
          · have still := (activity_of_ne performed others).trans notifying
            have woken := ih (reachable.step performed) still ((perform_affects performed).due mine due)
              (raised_of_perform performed raised) following
              fun other mem => pending other (List.mem_cons_of_mem _ mem)
            refine woken.imp_left ?_
            rintro ⟨other, mem, leaves⟩
            exact ⟨other, List.mem_cons_of_mem _ mem, leaves⟩

end Notifying

section Beginning

theorem lodges_of_wait {id : HandleId} {timeout : Option Duration}
    (performed : system.perform now (.begin thread (.wait id name timeout)) = some stepped)
    (waits : stepped.state.Waits name thread) :
    (stepped.state.conditions.get name).Lodges
      { thread, observed := (stepped.state.conditions.get name).generation,
        deadline := timeout.map (·.after now) } := by
  cases perform_affects performed with
  | park idle conditions =>
      rw [conditions, Table.get_set_same]
      exact @Condition.lodges_park _ ⟨thread, _, _, false⟩
  | leave waiting found ended => rcases ended with ⟨impossible, _⟩ | ⟨impossible, _⟩ <;> cases impossible
  | apart silent conditions before after =>
      rcases waits with ⟨place, holds, waiting⟩
      simp only [Move.thread] at after
      rw [waiting] at after
      cases after

theorem suspends_of_wait {operation : Operation} {place : LockId} {holds : Nat}
    (performed : system.perform now (.begin thread operation) = some stepped)
    (waiting : stepped.state.activity thread = .waiting place name holds) :
    (system.locks.get place).book.writer = some thread ∧
      (stepped.state.locks.get place).book.writer = none := by
  have idle := idle_of_begin performed
  rcases perform_transition performed with ⟨change, transition, stores⟩
  have parks : change.thread.activity = .waiting place name holds := by
    rw [← stores.own]
    exact waiting
  cases transition with
  | turn after reply before plain => rcases plain with _ | _ | _ <;> cases parks
  | stay before => cases idle.symm.trans before
  | @wait id _ parent lock holds name _ found suspended =>
      cases parks
      rcases Lock.suspend_eq_ok_iff.mp suspended with ⟨_, writer, rfl, _⟩
      refine ⟨writer, ?_⟩
      rw [stores.changed place _ rfl place, if_pos rfl, Lock.book_notifyAll]
      rfl
  | _ => cases parks

theorem raises_of_perform {all : Bool}
    (performed : system.perform now (.begin thread (.signal name all)) = some stepped) :
    stepped.state.activity thread = .notifying name all ∧
      stepped.state.conditions.get name = (system.conditions.get name).raise := by
  cases perform_affects performed with
  | raise idle conditions activity => exact ⟨activity, by rw [conditions, Table.get_set_same]⟩
  | leave waiting found ended => rcases ended with ⟨impossible, _⟩ | ⟨impossible, _⟩ <;> cases impossible
  | apart silent => simpa [Move.raises] using silent name

theorem woken_of_spans {moments during : List Moment} {first last : Moment} {reply : Reply} {all : Bool}
    (reachable : system.Reachable) (stretch : Stretch system moments final)
    (spans : Spans moments thread (.signal name all) first during last reply)
    (due : (first.before.conditions.get name).Due all sleeper ∨
      sleeper.roused ∈ (first.before.conditions.get name).sleepers) :
    Woken name sleeper during last.after := by
  rcases spans with ⟨⟨earlier, later, rfl⟩, begins, pending, own, _⟩
  rcases stretch.after_moment reachable with ⟨started, stepped, performed, _, _, following⟩
  rw [begins] at performed
  rcases raises_of_perform performed with ⟨notifying, raised⟩
  refine woken_of_due (started.step performed) notifying ?_ ?_ following pending own
  · rw [raised]
    exact due.imp_left fun due => ⟨due.mem, due.unnotified, due.first⟩
  · rw [raised]
    exact (sleeping_of_reachable started name).observed_lt (Condition.lodges_of_due due)

theorem Ends.concludes {timeout : Option Duration} {since : Instant} {before after : List Moment}
    {look : Moment} {signalled : Bool}
    (ends : Ends system name
      { thread, observed := (system.conditions.get name).generation,
        deadline := timeout.map (·.after since) } before look after signalled) :
    Concludes thread name timeout since before look after signalled := by
  have exact : signalled = true ↔ ∃ moment ∈ before, moment.move.raises name = true := by
    simpa using ends.exact
  have expired (unsignalled : signalled = false) : look.Expires thread timeout since := by
    rcases ends.expired unsignalled with ⟨expires, ended⟩
    refine ⟨expires, ?_⟩
    cases timeout with
    | none => cases ended
    | some limit => exact ⟨limit, rfl, of_decide_eq_true ended⟩
  refine ⟨ends.leaves, ends.last, exact, ?_, expired, ?_⟩
  · intro moment mem raises
    cases signalled with
    | true => exact Or.inl rfl
    | false =>
        refine Or.inr ⟨?_, expired rfl⟩
        rcases List.mem_append.mp mem with sooner | later
        · cases exact.mpr ⟨moment, sooner, raises⟩
        · rcases List.mem_cons.mp later with rfl | behind
          · rw [(expired rfl).1] at raises
            cases raises
          · exact behind
  · intro untimed
    refine exact.mp ?_
    cases signalled with
    | true => rfl
    | false =>
        rcases (expired rfl).2 with ⟨limit, timed, _⟩
        cases untimed.symm.trans timed

end Beginning

/-- **Signals are not lost**, whoever waits for which conditions and whoever signals them, in every
schedule. -/
theorem signalling_of_stretch {moments : List Moment} (reachable : system.Reachable)
    (stretch : Stretch system moments final) : Signalling moments := by
  refine ⟨?_, ?_, ?_, ?_, ?_, ?_⟩
  · refine stretch.each reachable ?_
    rintro system now move stepped _ performed thread operation place name holds rfl waiting
    exact suspends_of_wait performed waiting
  · refine stretch.each reachable ?_
    intro system now move stepped _ performed name
    exact (perform_affects performed).generation name
  · rintro thread id name timeout first during last reply
      ⟨⟨earlier, later, rfl⟩, begins, pending, own, replies⟩ waits
    rcases stretch.after_moment reachable with ⟨started, stepped, performed, after, _, following⟩
    rw [begins] at performed
    rw [after] at waits
    have lodges := lodges_of_wait performed waits
    rcases ends_of_lodges (started.step performed) lodges following pending own replies with
      ⟨before, look, after, signalled, rfl, answer, ends⟩
    exact ⟨before, look, after, signalled, rfl, answer, ends.concludes⟩
  · rintro earlier raise during look later name rfl raises sleeper mem looks away
    rcases stretch.after_moment reachable with ⟨started, stepped, performed, _, _, following⟩
    rcases Move.raises_iff.mp raises with ⟨thread, all, begins⟩
    rw [begins] at performed
    have raised := (raises_of_perform performed).2
    refine leaves_of_looks (started.step performed) ?_ ?_ following looks away
    · rw [raised]
      exact Condition.lodges_of_mem mem
    · rw [raised]
      exact (sleeping_of_reachable started name).observed_lt (Condition.lodges_of_mem mem)
  · intro thread name first during last reply spans sleeper mem
    refine woken_of_spans reachable stretch spans ?_
    cases notified : sleeper.notified with
    | false => exact Or.inl ⟨mem, notified, Or.inl rfl⟩
    | true =>
        rw [Sleeper.roused_eq notified]
        exact Or.inr mem
  · rintro thread name first during last reply spans ⟨parked, mem, unnotified⟩
    rcases Condition.exists_due false mem unnotified with ⟨sleeper, due⟩
    exact ⟨sleeper, due.mem, due.unnotified, woken_of_spans reachable stretch spans (Or.inl due)⟩

/-- Four threads and a condition. Two park, the second one without a deadline, and a signal for one of
them begins. A third one parks behind them and the second one looks before the signal notifies the first
one. The deadline of the third one ends its wait before the signal for all. -/
def exchange : List (Instant × Move) :=
  [.begin 0 (.exclusive 0 none), .proceed 0, .begin 0 (.wait 0 "ready" (some ⟨5⟩)),
    .begin 1 (.exclusive 0 none), .proceed 1, .begin 1 (.wait 1 "ready" none),
    .begin 2 (.signal "ready" false), .begin 3 (.exclusive 0 none), .proceed 3,
    .begin 3 (.wait 2 "ready" (some ⟨1⟩)), .wake 1, .proceed 2, .proceed 1, .begin 1 (.drop 1),
    .wake 0, .proceed 0, .begin 0 (.drop 0)].map (0, ·)
  ++ [.wake 3, .expire 3, .begin 2 (.signal "ready" true), .proceed 2, .proceed 3].map (1, ·)

theorem signalling_of_exchange :
    let moments := trace {} exchange
    Reachable {} ∧ moments.length = 22 ∧
      moments.filterMap (·.reply) = [.handle 0, .handle 1, .handle 2, .done, .waited true, .done,
        .waited true, .done, .done, .waited false] ∧
      Signalling moments := by
  intro moments
  refine ⟨⟨[], run_empty⟩, by decide, by decide, ?_⟩
  exact signalling_of_stretch ⟨[], run_empty⟩ (stretch_follow {} exchange)

end Coordination.LockSystem
