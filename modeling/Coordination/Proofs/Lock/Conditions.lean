import Coordination.Proofs.Lock.Retention
import Coordination.Proofs.Lock.Sleepers

/-!
# What steps do to conditions

`Affects` lists all that a step can do to the conditions: it raises one or notifies there, and a waiting
thread parks, looks and stays, or looks and leaves. Whatever else a thread does leaves all conditions as
they are. So the sleepers of every condition are the threads that wait for it (`Sleeping`), and what the
next step of a sleeper can be is said by `Sleeping.looks`.
-/

namespace Coordination

namespace LockSystem

/-- A thread is parked at a condition, or about to notify there. -/
def Activity.atCondition : Activity → Bool
  | .waiting _ _ _ | .notifying _ _ => true
  | _ => false

/-- The move raises a condition: it is the first step of a signal. -/
def Move.raises (move : Move) (name : String) : Bool :=
  match move with
  | .begin _ (.signal raised _) => raised = name
  | _ => false

theorem Move.raises_iff {move : Move} {name : String} :
    move.raises name = true ↔ ∃ thread all, move = .begin thread (.signal name all) := by
  constructor
  · intro signals
    unfold Move.raises at signals
    split at signals
    · rename_i thread raised all
      obtain rfl := of_decide_eq_true signals
      exact ⟨thread, all, rfl⟩
    · cases signals
  · rintro ⟨thread, all, rfl⟩
    exact decide_eq_true rfl

/-- What a thread goes on with after its wait. -/
def resumption (place : LockId) (holds : Nat) (signalled : Bool) (now : Instant) : Pursuit :=
  { purpose := .resume signalled, lock := place, request := .resume holds, since := now }

/-- What the steps of a schedule do to the conditions. -/
inductive Affects (system : LockSystem) (now : Instant) (stepped : Stepped) : Move → Prop where
  | raise {thread : ThreadId} {name : String} {all : Bool} (idle : system.activity thread = .idle)
      (conditions : stepped.state.conditions
        = system.conditions.set name (system.conditions.get name).raise)
      (activity : stepped.state.activity thread = .notifying name all) (reply : stepped.reply = none) :
      Affects system now stepped (.begin thread (.signal name all))
  | notify {thread : ThreadId} {name : String} {all : Bool}
      (notifying : system.activity thread = .notifying name all)
      (conditions : stepped.state.conditions
        = system.conditions.set name ((system.conditions.get name).notify all))
      (activity : stepped.state.activity thread = .idle) (reply : stepped.reply = some .done) :
      Affects system now stepped (.proceed thread)
  | park {thread : ThreadId} {id : HandleId} {name : String} {timeout : Option Duration}
      {place : LockId} {holds : Nat} (idle : system.activity thread = .idle)
      (conditions : stepped.state.conditions
        = system.conditions.set name ((system.conditions.get name).park thread
            (system.conditions.get name).generation (timeout.map (·.after now))))
      (activity : stepped.state.activity thread = .waiting place name holds)
      (reply : stepped.reply = none) : Affects system now stepped (.begin thread (.wait id name timeout))
  /-- A thread looks, sees no signal and parks again. -/
  | stay {thread : ThreadId} {place : LockId} {name : String} {holds : Nat} {sleeper : Sleeper}
      (waiting : system.activity thread = .waiting place name holds)
      (found : (system.conditions.get name).sleeper? thread = some sleeper)
      (unseen : (system.conditions.get name).signalledSince sleeper = false)
      (conditions : stepped.state.conditions
        = system.conditions.set name (((system.conditions.get name).unpark thread).park thread
            sleeper.observed sleeper.deadline))
      (activity : stepped.state.activity thread = .waiting place name holds)
      (reply : stepped.reply = none) : Affects system now stepped (.wake thread)
  /-- A thread looks for the last time. -/
  | leave {move : Move} {place : LockId} {name : String} {holds : Nat} {sleeper : Sleeper}
      (waiting : system.activity move.thread = .waiting place name holds)
      (found : (system.conditions.get name).sleeper? move.thread = some sleeper)
      (ended : move = .wake move.thread ∧ (system.conditions.get name).signalledSince sleeper = true ∨
        move = .expire move.thread ∧ isOver sleeper.deadline now = true)
      (conditions : stepped.state.conditions
        = system.conditions.set name ((system.conditions.get name).unpark move.thread))
      (activity : stepped.state.activity move.thread = .asking
        (resumption place holds ((system.conditions.get name).signalledSince sleeper) now))
      (reply : stepped.reply = none) : Affects system now stepped move
  /-- The step has nothing to do with conditions. -/
  | apart {move : Move} (silent : ∀ name, move.raises name = false)
      (conditions : stepped.state.conditions = system.conditions)
      (before : (system.activity move.thread).atCondition = false)
      (after : (stepped.state.activity move.thread).atCondition = false) :
      Affects system now stepped move

section Performing

variable {system : LockSystem} {thread : ThreadId} {now : Instant}

/-- The step leaves the conditions as they are, and the thread is at none of them. -/
def Aloof (system : LockSystem) (thread : ThreadId) (stepped : Stepped) : Prop :=
  stepped.state.conditions = system.conditions ∧
    (stepped.state.activity thread).atCondition = false

theorem aloof_finish {base : LockSystem} (same : base.conditions = system.conditions) (reply : Reply)
    (log : List Log.Entry) : Aloof system thread (base.finish thread reply log) :=
  ⟨same, by rw [activity_finish]; rfl⟩

theorem aloof_asking {base : LockSystem} (same : base.conditions = system.conditions)
    (pursuit : Pursuit) (log : List Log.Entry) :
    Aloof system thread (base.carryOn thread (.asking pursuit) log) :=
  ⟨same, by rw [activity_carryOn]; rfl⟩

theorem aloof_settle (pursuit : Pursuit) (result : Lock × Lock.Outcome) :
    Aloof system thread (system.settle thread pursuit now result) := by
  rcases result with ⟨lock, outcome⟩
  have granted (log : List Log.Entry) :
      Aloof system thread ((system.setLock pursuit.lock lock).succeed thread pursuit log) := by
    simp only [succeed]
    split
    · exact aloof_finish rfl _ _
    · exact aloof_finish rfl _ _
    · exact aloof_finish rfl _ _
    · refine aloof_finish ?_ _ _
      split <;> rfl
    · exact aloof_finish rfl _ _
  cases outcome with
  | granted | reentered => exact granted _
  | refused error =>
      simp only [settle, refuse]
      split
      · exact aloof_asking rfl _ _
      · exact aloof_finish rfl _ _
  | parked => exact ⟨rfl, by simp only [settle, activity_carryOn]; rfl⟩
  | timedOut => exact aloof_finish rfl _ _

theorem Aloof.affects {move : Move} {stepped : Stepped} (aloof : Aloof system move.thread stepped)
    (silent : ∀ name, move.raises name = false)
    (before : (system.activity move.thread).atCondition = false) : Affects system now stepped move :=
  .apart silent aloof.1 before aloof.2

theorem Begins.affects {operation : Operation} {stepped : Stepped}
    (begins : Begins system now thread operation stepped) (idle : system.activity thread = .idle) :
    Affects system now stepped (.begin thread operation) := by
  have before : (system.activity thread).atCondition = false := by rw [idle]; rfl
  have silent (id : HandleId) (drop : Bool) (name : String) :
      (Move.begin thread (giving id drop)).raises name = false := by
    cases drop <;> rfl
  cases begins with
  | shared | exclusive | upgrade => exact Aloof.affects (aloof_asking rfl _ _) (fun _ => rfl) before
  | releaseChild => exact Aloof.affects (aloof_asking rfl _ _) (silent _ _) before
  | upgradeExclusive | refuseUpgrade | waitShared | waitReleased | overflowWait | refuseWait =>
      exact Aloof.affects (aloof_finish rfl _ _) (fun _ => rfl) before
  | overflow asks =>
      rcases asks with rfl | rfl <;> exact Aloof.affects (aloof_finish rfl _ _) (fun _ => rfl) before
  | absent uses | borrowed uses =>
      refine Aloof.affects (aloof_finish rfl _ _) (fun _ => ?_) before
      cases operation <;> first | rfl | cases uses
  | discard drop | releaseShared drop | releaseExclusive drop =>
      refine Aloof.affects (aloof_finish ?_ _ _) (silent _ _) before
      cases drop <;> rfl
  | wait => exact .park idle rfl (activity_carryOn _ _) rfl
  | signal => exact .raise idle rfl (activity_carryOn _ _) rfl

theorem perform_affects {move : Move} {stepped : Stepped}
    (performed : system.perform now move = some stepped) : Affects system now stepped move := by
  cases perform_eq_some_iff.mp performed with
  | begin operation idle => exact (begins_begin system now _ operation).affects idle
  | ask asking =>
      exact Aloof.affects (aloof_settle _ _) (fun _ => rfl) (by rw [Move.thread, asking]; rfl)
  | wake parked | expire parked =>
      exact Aloof.affects (aloof_settle _ _) (fun _ => rfl) (by rw [Move.thread, parked]; rfl)
  | notify notifying => exact .notify notifying rfl (activity_finish _ _) rfl
  | stay waiting found unseen => exact .stay waiting found unseen rfl waiting rfl
  | leave waiting found seen =>
      refine .leave waiting found (Or.inl ⟨rfl, seen⟩) rfl ?_ rfl
      rw [seen]
      exact activity_carryOn _ _
  | leaveLate waiting found passed =>
      exact .leave waiting found (Or.inr ⟨rfl, passed⟩) rfl (activity_carryOn _ _) rfl

/-- What all changes of a condition keep, every step keeps. -/
theorem Affects.induction {move : Move} {stepped : Stepped} (affects : Affects system now stepped move)
    {name : String} {motive : Condition → Prop} (start : motive (system.conditions.get name))
    (raise : ∀ {condition : Condition}, motive condition → motive condition.raise)
    (notify : ∀ {condition : Condition} all, motive condition → motive (condition.notify all))
    (unpark : ∀ {condition : Condition}, motive condition → motive (condition.unpark move.thread))
    (park : ∀ {condition : Condition} observed deadline, motive condition →
      motive (condition.park move.thread observed deadline)) :
    motive (stepped.state.conditions.get name) := by
  have changes {changed : String} {condition : Condition}
      (conditions : stepped.state.conditions = system.conditions.set changed condition)
      (kept : motive (system.conditions.get changed) → motive condition) :
      motive (stepped.state.conditions.get name) := by
    rw [conditions, Table.get_set]
    split
    · rename_i same
      subst same
      exact kept start
    · exact start
  cases affects with
  | raise idle conditions => exact changes conditions raise
  | notify notifying conditions => exact changes conditions (notify _)
  | park idle conditions => exact changes conditions (park _ _)
  | stay waiting found unseen conditions =>
      exact changes conditions fun before => park _ _ (unpark before)
  | leave waiting found ended conditions => exact changes conditions unpark
  | apart silent conditions =>
      rw [conditions]
      exact start

theorem Affects.lodges {move : Move} {stepped : Stepped} (affects : Affects system now stepped move)
    {name : String} {sleeper : Sleeper} (apart : move.thread ≠ sleeper.thread)
    (lodges : (system.conditions.get name).Lodges sleeper) :
    (stepped.state.conditions.get name).Lodges sleeper := by
  refine affects.induction (motive := fun condition => condition.Lodges sleeper) lodges ?_ ?_ ?_ ?_
  · exact fun before => before
  · exact fun all before => before.notify all
  · exact fun before => before.unpark apart
  · exact fun observed deadline before => before.park

/-- A sleeper stays due until it is notified or makes a step itself. -/
theorem Affects.due {move : Move} {stepped : Stepped} (affects : Affects system now stepped move)
    {name : String} {sleeper : Sleeper} {all : Bool} (apart : move.thread ≠ sleeper.thread)
    (due : (system.conditions.get name).Due all sleeper ∨
      sleeper.roused ∈ (system.conditions.get name).sleepers) :
    (stepped.state.conditions.get name).Due all sleeper ∨
      sleeper.roused ∈ (stepped.state.conditions.get name).sleepers := by
  refine affects.induction
    (motive := fun condition => condition.Due all sleeper ∨ sleeper.roused ∈ condition.sleepers)
    due ?_ ?_ ?_ ?_
  · rintro condition (due | roused)
    · exact Or.inl ⟨due.mem, due.unnotified, due.first⟩
    · exact Or.inr roused
  · rintro condition every (due | roused)
    · exact due.notify every
    · exact Or.inr ((Condition.mem_notify every roused).elim id id)
  · rintro condition (due | roused)
    · exact Or.inl (due.unpark apart)
    · exact Or.inr (Condition.mem_sleepers_unpark.mpr ⟨roused, apart.symm⟩)
  · rintro condition observed deadline (due | roused)
    · exact Or.inl due.park
    · exact Or.inr (Condition.mem_sleepers_park.mpr (Or.inl roused))

/-- A condition begins a new generation when it is raised, and never else. -/
theorem Affects.generation {move : Move} {stepped : Stepped}
    (affects : Affects system now stepped move) (name : String) :
    (stepped.state.conditions.get name).generation
      = (system.conditions.get name).generation + if move.raises name then 1 else 0 := by
  have changes {changed : String} {condition : Condition}
      (conditions : stepped.state.conditions = system.conditions.set changed condition)
      (same : condition.generation = (system.conditions.get changed).generation) :
      (stepped.state.conditions.get name).generation = (system.conditions.get name).generation := by
    rw [conditions, Table.get_set]
    split
    · rename_i here
      rw [same, here]
    · rfl
  cases affects with
  | @raise thread raised all idle conditions =>
      by_cases here : raised = name
      · subst here
        simp [conditions, Condition.raise, Move.raises]
      · simp [conditions, Table.get_set, here, Move.raises]
  | notify notifying conditions => exact changes conditions rfl
  | park idle conditions => exact changes conditions rfl
  | stay waiting found unseen conditions => exact changes conditions rfl
  | @leave move place name holds sleeper waiting found ended conditions =>
      have silent (other : String) : move.raises other = false := by
        rcases ended with ⟨wakes, _⟩ | ⟨expires, _⟩
        · rw [wakes]
          rfl
        · rw [expires]
          rfl
      rw [silent]
      exact changes conditions rfl
  | apart silent conditions =>
      rw [conditions, silent]
      rfl

/-- A step is that of one thread, and leaves the others in the middle of what they are doing. -/
theorem activity_of_ne {move : Move} {stepped : Stepped}
    (performed : system.perform now move = some stepped) {other : ThreadId}
    (apart : move.thread ≠ other) : stepped.state.activity other = system.activity other := by
  rcases perform_transition performed with ⟨change, _, stores⟩
  rw [activity, stores.others other apart, activity]

end Performing

section Sleeping

variable {system : LockSystem} {now : Instant} {move : Move} {stepped : Stepped} {name : String}

/-- A thread waits for a condition. -/
def Waits (system : LockSystem) (name : String) (thread : ThreadId) : Prop :=
  ∃ place holds, system.activity thread = .waiting place name holds

theorem waits_iff_of_waiting {thread : ThreadId} {place : LockId} {waited : String} {holds : Nat}
    (waiting : system.activity thread = .waiting place waited holds) :
    system.Waits name thread ↔ waited = name := by
  simp [Waits, waiting]

theorem not_waits_of_idle {thread : ThreadId} (idle : system.activity thread = .idle) :
    ¬system.Waits name thread := by
  simp [Waits, idle]

/-- At every condition sleep those, once, who wait for it. -/
def Sleeping (system : LockSystem) : Prop :=
  ∀ name, (system.conditions.get name).Sound (system.Waits name)

theorem Sleeping.step (sleeping : system.Sleeping)
    (performed : system.perform now move = some stepped) : stepped.state.Sleeping := by
  intro name
  have waits {name : String} {other : ThreadId} (apart : move.thread ≠ other)
      (before : system.Waits name other) : stepped.state.Waits name other := by
    rcases before with ⟨place, holds, waiting⟩
    exact ⟨place, holds, (activity_of_ne performed apart).trans waiting⟩
  -- A condition for which the thread does not wait is sound after the step, if it stays as it is.
  have elsewhere {name : String} (absent : ¬system.Waits name move.thread) :
      (system.conditions.get name).Sound (stepped.state.Waits name) := by
    refine (sleeping name).congr fun sleeper _ before => waits ?_ before
    intro same
    exact absent (same ▸ before)
  have others {changed : String} {condition : Condition}
      (conditions : stepped.state.conditions = system.conditions.set changed condition)
      (here : condition.Sound (stepped.state.Waits changed))
      (apart : changed ≠ name → ¬system.Waits name move.thread) :
      (stepped.state.conditions.get name).Sound (stepped.state.Waits name) := by
    rw [conditions, Table.get_set]
    split
    · rename_i same
      subst same
      exact here
    · exact elsewhere (apart ‹_›)
  cases perform_affects performed with
  | raise idle conditions =>
      have absent (name : String) : ¬system.Waits name _ := not_waits_of_idle idle
      exact others conditions (elsewhere (absent _)).raise fun _ => absent name
  | @notify thread waited all notifying conditions =>
      have absent (name : String) : ¬system.Waits name thread := by
        rintro ⟨place, holds, waiting⟩
        cases notifying.symm.trans waiting
      exact others conditions ((elsewhere (absent _)).notify _) fun _ => absent name
  | park idle conditions activity =>
      have absent (name : String) : ¬system.Waits name _ := not_waits_of_idle idle
      refine others conditions ?_ fun _ => absent name
      refine ((sleeping _).park _ (absent _) (Nat.le_refl _)).congr ?_
      rintro sleeper _ (before | same)
      · refine waits ?_ before
        rintro same
        exact absent _ (same ▸ before)
      · rw [same]
        exact ⟨_, _, activity⟩
  | @stay thread place waited holds sleeper waiting found unseen conditions activity =>
      refine others conditions ?_ (mt (waits_iff_of_waiting waiting).mp)
      have sound := sleeping waited
      have listed := (sound.sleeper?_eq_some_iff.mp found).1
      refine ((sound.unpark thread).park _ (fun there => there.2 rfl)
        (sound.observed sleeper listed)).congr ?_
      rintro other _ (⟨before, apart⟩ | same)
      · exact waits apart.symm before
      · rw [same]
        exact ⟨_, _, activity⟩
  | @leave _ place waited holds sleeper waiting found ended conditions =>
      refine others conditions ?_ (mt (waits_iff_of_waiting waiting).mp)
      refine ((sleeping waited).unpark _).congr ?_
      rintro other _ ⟨before, apart⟩
      exact waits apart.symm before
  | apart silent conditions before =>
      rw [conditions]
      refine elsewhere ?_
      rintro ⟨place, holds, waiting⟩
      rw [waiting] at before
      cases before

theorem sleeping_of_reachable (reachable : system.Reachable) : system.Sleeping := by
  refine reachable.induction (motive := Sleeping) ?_ Sleeping.step
  intro system fresh name
  rw [fresh.conditions]
  exact .new

/-- A thread that is parked at a condition looks there with its next step. Unless it has seen a signal, or
its deadline has passed, it parks again. -/
inductive Looks (system : LockSystem) (now : Instant) (stepped : Stepped) (name : String)
    (sleeper : Sleeper) : Move → Prop where
  | stay (unseen : (system.conditions.get name).generation = sleeper.observed)
      (lodges : (stepped.state.conditions.get name).Lodges sleeper) (reply : stepped.reply = none) :
      Looks system now stepped name sleeper (.wake sleeper.thread)
  | leave {move : Move} {place : LockId} {holds : Nat} {signalled : Bool}
      (look : signalled = true ∧ move = .wake sleeper.thread ∨
        move = .expire sleeper.thread ∧ isOver sleeper.deadline now = true)
      (seen : signalled = true ↔ (system.conditions.get name).generation ≠ sleeper.observed)
      (activity : stepped.state.activity sleeper.thread = .asking (resumption place holds signalled now))
      (reply : stepped.reply = none) : Looks system now stepped name sleeper move

theorem Sleeping.looks {sleeper : Sleeper} (sleeping : system.Sleeping)
    (performed : system.perform now move = some stepped)
    (lodges : (system.conditions.get name).Lodges sleeper) (own : move.thread = sleeper.thread) :
    system.Waits name move.thread ∧ Looks system now stepped name sleeper move := by
  have sound := sleeping name
  rcases List.mem_map.mp lodges with ⟨lodger, mem, same⟩
  have waits : system.Waits name move.thread := by
    rw [own, ← (Sleeper.of_roused_eq same).1]
    exact sound.waits lodger mem
  refine ⟨waits, ?_⟩
  rcases waits with ⟨place, holds, doing⟩
  cases perform_affects performed with
  | raise idle | park idle => cases idle.symm.trans doing
  | notify notifying => cases notifying.symm.trans doing
  | @stay thread _ _ _ found waiting isFound unseen conditions activity reply =>
      cases waiting.symm.trans doing
      cases own
      have same := Sleeper.of_roused_eq (sound.roused_eq_of_lodges lodges isFound)
      refine .stay ?_ ?_ reply
      · rw [← same.2.1]
        simpa [Condition.signalledSince] using unseen
      · rw [conditions, Table.get_set_same, same.2.1, same.2.2]
        exact Condition.lodges_park
  | @leave _ _ _ _ found waiting isFound ended conditions activity reply =>
      cases waiting.symm.trans doing
      rw [own] at isFound activity ended
      have same := Sleeper.of_roused_eq (sound.roused_eq_of_lodges lodges isFound)
      refine .leave ?_ ?_ activity reply
      · rw [← same.2.2]
        exact ended.imp_left fun woken => ⟨woken.2, woken.1⟩
      · rw [← same.2.1]
        simp [Condition.signalledSince]
  | apart silent conditions before =>
      rw [doing] at before
      cases before

end Sleeping

end LockSystem

end Coordination
