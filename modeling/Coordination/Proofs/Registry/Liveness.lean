import Coordination.Proofs.Registry.Waiting
import Mathlib.Algebra.BigOperators.Group.List.Basic

/-!
# Operations that come to their end

A purge and the two counts go through the shards and wait for nothing but latches. Whoever holds a latch
goes through the entries of his shard and gives it back, and he needs nobody for that (`exists_free`). So
an operation can come to its end whatever else goes on, even if no factory ever ends, its own thread's
included (`completes_of_tours`).
-/

namespace Coordination.RegistrySystem

variable {κ α : Type} [DecidableEq κ]

/-- A party makes a step by itself: nobody begins an operation, and no factory ends. -/
def Moves (system after : RegistrySystem κ α) : Prop :=
  ∃ now party stepped, system.step now party = some stepped ∧ after = stepped.state

/-- A thread can come to the end of its innermost operation, which is to count something, and be left with
what it was doing before. -/
def Completes (system : RegistrySystem κ α) (thread : ThreadId) (rest : List (Activity κ)) : Prop :=
  ∃ middle now stepped number, Relation.ReflTransGen Moves system middle ∧
    middle.step now (.caller thread) = some stepped ∧ stepped.reply = some (.count number) ∧
      stepped.state.stack (.caller thread) = rest

/-- Whether an activity belongs to an operation that goes through the shards. -/
def Activity.tours : Activity κ → Bool
  | .approaching _ _ | .sweeping _ _ _ | .unlinking _ _ _ _ | .surveying _ _ | .counting _ _ _
  | .measuring _ _ _ => true
  | _ => false

/-- How many steps a party has to make in its shard. -/
def Activity.toil : Activity κ → Nat
  | .sweeping _ left _ => 2 * left.length + 1
  | .unlinking _ _ left _ => 2 * left.length + 2
  | .counting _ left _ => left.length + 1
  | _ => 0

def toil (system : RegistrySystem κ α) (party : Party) : Nat :=
  ((system.activity? party).map Activity.toil).getD 0

/-- How many steps are to be made in a shard until its latch is free. -/
def work (system : RegistrySystem κ α) (shard : Nat) : Nat :=
  ((system.registry.latches.get shard).holders.map system.toil).sum

/-- A state in which a thread has some activities, and from which a known number of shards stays the same. -/
structure Engaged (system : RegistrySystem κ α) (shards : Nat) (thread : ThreadId)
    (stack : List (Activity κ)) : Prop where
  reached : ∃ held, Reachable held system
  shards : system.registry.shards = shards
  stack : system.stack (.caller thread) = stack

variable {held next : List (Reference κ)} {system after middle : RegistrySystem κ α}
  {party other : Party} {thread : ThreadId} {now : Instant} {stepped : Stepped κ α} {shard shards : Nat}
  {activity : Activity κ} {stack rest : List (Activity κ)}

section Moving

theorem Change.shards_eq {registry after : Registry κ α} {before following : List (Activity κ)}
    {gain : Option (Reference κ)} (change : Change registry party before after following gain) :
    after.shards = registry.shards := by
  cases change with
  | insert stack free =>
      simp only [Registry.insert]
      split <;> rfl
  | _ => rfl

theorem Transition.shards_eq (transition : Transition system held after next) :
    after.registry.shards = system.registry.shards := by
  cases transition with
  | change party changes gains => exact changes.change.shards_eq
  | clone mem refers same =>
      rw [refers]
      rfl
  | drop listed releases same =>
      rw [releases]
      rfl
  | rest untouched same => exact congrArg Registry.shards untouched

theorem Engaged.activity? (engaged : Engaged system shards thread (activity :: stack)) :
    system.activity? (.caller thread) = some activity :=
  congrArg List.head? engaged.stack

/-- The step of a party leaves a state that can be reached, with as many shards. -/
theorem Engaged.step (engaged : Engaged system shards thread stack)
    (performed : system.step now party = some stepped) :
    Engaged stepped.state shards thread (stepped.state.stack (.caller thread)) := by
  rcases engaged.reached with ⟨held, reached⟩
  have moves (move : Move κ α) (performed : system.perform held now move = some stepped) :
      Engaged stepped.state shards thread (stepped.state.stack (.caller thread)) := by
    have transition := (invariant_of_reachable reached).transition performed
    exact ⟨⟨_, reached.step performed⟩, transition.shards_eq.trans engaged.shards, rfl⟩
  cases party with
  | caller other => exact moves (.proceed other) performed
  | agent id => exact moves (.reap id) performed

end Moving

section Working

omit [DecidableEq κ] in
theorem toil_congr (same : after.stack party = system.stack party) : after.toil party = system.toil party :=
  congrArg (fun stack => ((List.head? stack).map Activity.toil).getD 0) same

omit [DecidableEq κ] in
theorem toil_turnTo (system : RegistrySystem κ α) (party : Party) (next : Activity κ) :
    (system.turnTo party next).toil party = next.toil := by
  have turned := system.stack_turnTo party party next
  rw [if_pos rfl] at turned
  exact congrArg (fun stack => ((List.head? stack).map Activity.toil).getD 0) turned

omit [DecidableEq κ] in
/-- A party that has come nearer to the end of its shard, or has left it, leaves less work there. -/
theorem work_lt (distinct : (system.registry.latches.get shard).holders.Nodup)
    (holds : party ∈ (system.registry.latches.get shard).holders)
    (others : ∀ other, party ≠ other → after.stack other = system.stack other)
    (less : after.toil party < system.toil party)
    (holders : (after.registry.latches.get shard).holders = (system.registry.latches.get shard).holders ∨
      (after.registry.latches.get shard).holders
        = (system.registry.latches.get shard).holders.erase party) :
    after.work shard < system.work shard := by
  have rest : ((system.registry.latches.get shard).holders.erase party).map after.toil
      = ((system.registry.latches.get shard).holders.erase party).map system.toil := by
    refine List.map_congr_left fun other mem => ?_
    exact toil_congr (others other (distinct.mem_erase_iff.mp mem).1.symm)
  have whole := List.sum_map_erase system.toil holds
  rcases holders with same | erased
  · have now := List.sum_map_erase after.toil holds
    rw [work, work, same]
    rw [rest] at now
    omega
  · rw [work, work, erased, rest]
    omega

/-- A party can go on in its shard by itself: it comes nearer to the end of it, and it leaves it or stays. -/
def Nears (system : RegistrySystem κ α) (party : Party) (shard : Nat) : Prop :=
  ∃ stepped, system.proceed party = some stepped ∧ stepped.reply = none ∧
    stepped.state.toil party < system.toil party ∧
      ((stepped.state.registry.latches.get shard).holders = (system.registry.latches.get shard).holders ∨
        (stepped.state.registry.latches.get shard).holders
          = (system.registry.latches.get shard).holders.erase party)

omit [DecidableEq κ] in
theorem toil_eq (doing : system.activity? party = some activity) : system.toil party = activity.toil := by
  rw [RegistrySystem.toil, doing]
  rfl

theorem nears_of_sweeping {left : List (κ × SlotId)} {removed : Nat}
    (doing : system.activity? party = some (.sweeping shard left removed))
    (alone : system.registry.latches.get shard = .exclusive party) : system.Nears party shard := by
  have toil := toil_eq doing
  cases left with
  | nil =>
      refine ⟨_, (Advance.vacate shard removed).proceeds doing, rfl, ?_, Or.inr ?_⟩
      · rw [toil, toil_turnTo]
        exact Nat.succ_pos _
      · simp [turnTo, RegistrySystem.modify, Registry.get_modifyLatch, Latch.holders, alone]
  | cons entry left =>
      cases live : system.registry.countsAsLive entry.2 with
      | true =>
          refine ⟨_, (Advance.skip shard left removed live).proceeds doing, rfl, ?_, Or.inl rfl⟩
          rw [toil, toil_turnTo]
          simp only [Activity.toil, List.length_cons]
          omega
      | false =>
          refine ⟨_, (Advance.retire shard entry.1 left removed live).proceeds doing, rfl, ?_, Or.inl rfl⟩
          rw [toil, toil_turnTo]
          simp only [Activity.toil, List.length_cons]
          omega

theorem nears_of_unlinking {key : κ} {left : List (κ × SlotId)} {removed : Nat}
    (doing : system.activity? party = some (.unlinking key shard left removed)) :
    system.Nears party shard := by
  refine ⟨_, (Advance.unlink key shard left removed).proceeds doing, rfl, ?_, Or.inl rfl⟩
  rw [toil_eq doing, toil_turnTo]
  exact Nat.lt_succ_self _

theorem nears_of_counting {left : List (κ × SlotId)} {count : Nat}
    (doing : system.activity? party = some (.counting shard left count))
    (admits : (system.registry.latches.get shard).admitsReader = true) : system.Nears party shard := by
  have toil := toil_eq doing
  cases left with
  | nil =>
      refine ⟨_, (Advance.leave shard count).proceeds doing, rfl, ?_, Or.inr ?_⟩
      · rw [toil, toil_turnTo]
        exact Nat.succ_pos _
      · rw [← Latch.holders_leave admits]
        exact congrArg Latch.holders ((Registry.get_modifyLatch _ _ _ _).trans (if_pos rfl))
  | cons entry left =>
      refine ⟨_, (Advance.count shard entry left count).proceeds doing, rfl, ?_, Or.inl rfl⟩
      rw [toil, toil_turnTo]
      exact Nat.lt_succ_self _

theorem nears_of_holder (latched : Latched system.registry system.stack)
    (holds : party ∈ (system.registry.latches.get shard).holders) : system.Nears party shard := by
  rcases latched.held shard party holds with ⟨activity, does, inside, kind⟩
  have doing : system.activity? party = some activity := does
  cases activity with
  | sweeping place left removed =>
      cases inside
      refine nears_of_sweeping doing ?_
      cases latch : system.registry.latches.get shard with
      | exclusive owner =>
          rw [latch] at holds
          rw [List.mem_singleton.mp holds]
      | free | shared =>
          rw [latch] at kind
          cases kind
  | unlinking key place left removed =>
      cases inside
      exact nears_of_unlinking doing
  | counting place left count =>
      cases inside
      exact nears_of_counting doing kind.symm
  | _ => cases inside

/-- Whoever holds a latch makes the next step in its shard. -/
theorem step_of_holder (reached : Reachable held system)
    (holds : party ∈ (system.registry.latches.get shard).holders) :
    ∃ stepped, system.step 0 party = some stepped ∧
      (∀ other, party ≠ other → stepped.state.stack other = system.stack other) ∧
        stepped.state.work shard < system.work shard := by
  have latched := latched_of_reachable reached
  rcases latched.held shard party holds with ⟨activity, does, _⟩
  rcases nears_of_holder latched holds with ⟨stepped, proceeded, silent, less, holders⟩
  have advance := (proceed_eq_some_iff does).mp proceeded
  rcases step_of_advance (invariant_of_reachable reached).reaping does advance 0 with ⟨_, performed, same⟩
  have others := (proceed_performs proceeded).changes.others
  exact ⟨stepped, same silent ▸ performed, others, work_lt (latched.distinct shard) holds others less holders⟩

end Working

section Touring

/-- Those who are in a shard can leave it, while a thread that is in none waits. -/
theorem exists_free (engaged : Engaged system shards thread (activity :: rest))
    (outside : activity.latch? = none) (shard : Nat) :
    ∃ middle, Relation.ReflTransGen Moves system middle ∧
      Engaged middle shards thread (activity :: rest) ∧ middle.registry.latches.get shard = .free := by
  -- As long as somebody is inside, he makes the next step, and there is less left to do in the shard.
  induction ahead : system.work shard using Nat.strongRecOn generalizing system with
  | _ ahead ih =>
      rcases engaged.reached with ⟨held, reached⟩
      have latched := latched_of_reachable reached
      by_cases nobody : (system.registry.latches.get shard).holders = []
      · exact ⟨system, .refl, engaged, Latch.eq_free_of_holders (latched.manned shard) nobody⟩
      · rcases List.exists_mem_of_ne_nil _ nobody with ⟨party, holds⟩
        rcases step_of_holder reached holds with ⟨stepped, performed, others, less⟩
        have apart : party ≠ .caller thread := by
          rintro rfl
          refine latched.not_mem engaged.activity? ?_ holds
          rw [outside]
          exact Option.some_ne_none shard ∘ Eq.symm
        have still := engaged.step performed
        rw [others _ apart, engaged.stack] at still
        rcases ih _ (ahead ▸ less) still rfl with ⟨middle, path, there, free⟩
        exact ⟨middle, .head ⟨0, party, stepped, performed, rfl⟩ path, there, free⟩

theorem Completes.of_path (path : Relation.ReflTransGen Moves system middle)
    (completes : Completes middle thread rest) : Completes system thread rest := by
  rcases completes with ⟨last, now, stepped, number, more, performed, replies, stack⟩
  exact ⟨last, now, stepped, number, path.trans more, performed, replies, stack⟩

/-- A thread turns to something else, and completes that. -/
theorem Engaged.turn {changed : RegistrySystem κ α} {next : Activity κ}
    (engaged : Engaged system shards thread (activity :: rest))
    (advance : Advance system (.caller thread) activity { state := changed.turnTo (.caller thread) next })
    (same : changed.activities = system.activities)
    (more : ∀ {middle : RegistrySystem κ α}, Engaged middle shards thread (next :: rest) →
      Completes middle thread rest) : Completes system thread rest := by
  have performed : system.step 0 (.caller thread) = _ := advance.proceeds engaged.activity?
  have turned := engaged.step performed
  rw [stack_turnTo, if_pos rfl, stack_congr same, engaged.stack] at turned
  exact (more turned).of_path (.single ⟨0, .caller thread, _, performed, rfl⟩)

theorem Engaged.ends (engaged : Engaged system shards thread (activity :: rest)) {number : Nat}
    {log : List Log.Entry}
    (advance : Advance system (.caller thread) activity
      (system.finish (.caller thread) (.count number) log)) : Completes system thread rest := by
  refine ⟨system, 0, _, number, .refl, advance.proceeds engaged.activity?, rfl, ?_⟩
  rw [stack_finish, if_pos rfl, engaged.stack, List.tail_cons]

theorem completes_of_measuring {count : Nat} {wanted : Wanted}
    (engaged : Engaged system shards thread (.measuring shard count wanted :: rest)) :
    Completes system thread rest := by
  induction ahead : shards - shard generalizing system shard count with
  | zero =>
      have outside : system.registry.shards ≤ shard := by rw [engaged.shards]; omega
      cases wanted with
      | answer => exact engaged.ends (.measured count outside)
      | log removed => exact engaged.ends (.logged count removed outside)
  | succ further ih =>
      rcases exists_free engaged rfl shard with ⟨middle, path, there, free⟩
      have inside : shard < middle.registry.shards := by rw [there.shards]; omega
      have admits : (middle.registry.latches.get shard).admitsReader = true := by rw [free]; rfl
      exact .of_path path (there.turn (.measure count wanted inside admits) rfl
        fun more => ih more (by omega))

theorem completes_of_counting {left : List (κ × SlotId)} {count : Nat}
    (engaged : Engaged system shards thread (.counting shard left count :: rest))
    (further : ∀ {middle : RegistrySystem κ α} {count : Nat},
      Engaged middle shards thread (.surveying (shard + 1) count :: rest) → Completes middle thread rest) :
    Completes system thread rest := by
  induction left generalizing system count with
  | nil => exact engaged.turn (.leave shard count) rfl further
  | cons entry left ih => exact engaged.turn (.count shard entry left count) rfl ih

theorem completes_of_surveying {count : Nat}
    (engaged : Engaged system shards thread (.surveying shard count :: rest)) :
    Completes system thread rest := by
  induction ahead : shards - shard generalizing system shard count with
  | zero =>
      have outside : system.registry.shards ≤ shard := by rw [engaged.shards]; omega
      exact engaged.ends (.surveyed count outside)
  | succ fewer ih =>
      rcases exists_free engaged rfl shard with ⟨middle, path, there, free⟩
      have inside : shard < middle.registry.shards := by rw [there.shards]; omega
      have admits : (middle.registry.latches.get shard).admitsReader = true := by rw [free]; rfl
      exact .of_path path (there.turn (.visit count inside admits) rfl
        fun more => completes_of_counting more fun more => ih more (by omega))

theorem completes_of_unlinking {key : κ} {left : List (κ × SlotId)} {removed : Nat}
    (engaged : Engaged system shards thread (.unlinking key shard left removed :: rest))
    (further : ∀ {middle : RegistrySystem κ α},
      Engaged middle shards thread (.sweeping shard left removed :: rest) → Completes middle thread rest) :
    Completes system thread rest :=
  engaged.turn (.unlink key shard left removed) rfl further

theorem completes_of_sweeping {left : List (κ × SlotId)} {removed : Nat}
    (engaged : Engaged system shards thread (.sweeping shard left removed :: rest))
    (further : ∀ {middle : RegistrySystem κ α} {removed : Nat},
      Engaged middle shards thread (.approaching (shard + 1) removed :: rest) →
        Completes middle thread rest) :
    Completes system thread rest := by
  induction left generalizing system removed with
  | nil => exact engaged.turn (.vacate shard removed) rfl further
  | cons entry left ih =>
      cases live : system.registry.countsAsLive entry.2 with
      | true => exact engaged.turn (.skip shard left removed live) rfl ih
      | false =>
          exact engaged.turn (.retire shard entry.1 left removed live) rfl
            fun more => completes_of_unlinking more ih

theorem completes_of_approaching {removed : Nat}
    (engaged : Engaged system shards thread (.approaching shard removed :: rest)) :
    Completes system thread rest := by
  induction ahead : shards - shard generalizing system shard removed with
  | zero =>
      have outside : system.registry.shards ≤ shard := by rw [engaged.shards]; omega
      cases removed with
      | zero => exact engaged.ends (.purged outside)
      | succ removed =>
          exact engaged.turn (.report outside (Nat.succ_ne_zero removed)) rfl completes_of_measuring
  | succ fewer ih =>
      rcases exists_free engaged rfl shard with ⟨middle, path, there, free⟩
      have inside : shard < middle.registry.shards := by rw [there.shards]; omega
      have admits : (middle.registry.latches.get shard).admitsWriter = true := by rw [free]; rfl
      exact .of_path path (there.turn (.occupy removed inside admits) rfl
        fun more => completes_of_sweeping more fun more => ih more (by omega))

/-- An operation that goes through the shards can come to its end, wherever it is. -/
theorem completes_of_tours (reached : Reachable held system)
    (doing : system.stack (.caller thread) = activity :: rest) (tours : activity.tours = true) :
    Completes system thread rest := by
  have engaged : Engaged system system.registry.shards thread (activity :: rest) :=
    ⟨⟨held, reached⟩, rfl, doing⟩
  cases activity with
  | approaching => exact completes_of_approaching engaged
  | sweeping => exact completes_of_sweeping engaged completes_of_approaching
  | unlinking =>
      exact completes_of_unlinking engaged fun more => completes_of_sweeping more completes_of_approaching
  | surveying => exact completes_of_surveying engaged
  | counting => exact completes_of_counting engaged completes_of_surveying
  | measuring => exact completes_of_measuring engaged
  | _ => cases tours

end Touring

section Freedom

/-- No wait lasts for good. -/
structure DeadlockFree (held : List (Reference κ)) (system : RegistrySystem κ α) : Prop where
  /-- Whoever waits for the lock of a slot, or is about to take it, holds no latch. -/
  clear : ∀ party key slot, system.activity? party = some (.entering key slot) →
    ∀ shard, party ∉ (system.registry.latches.get shard).holders
  /-- Whoever is in the middle of something can go on, unless he waits for somebody. -/
  blocked : ∀ party, system.stack party ≠ [] →
    Acts system held party ∨ ∃ other, Waits system party other
  /-- Nobody waits for himself, over however many others. -/
  acyclic : ∀ party, ¬Relation.TransGen (Waits system) party party
  /-- Behind everybody who waits there is somebody who can go on. -/
  progress : ∀ party, system.stack party ≠ [] →
    ∃ other, Relation.ReflTransGen (Waits system) party other ∧ Acts system held other
  /-- A purge or a count can come to its end and return, also inside of a factory, and nobody has to end
  a factory or to begin anything for that. -/
  completes : ∀ thread activity rest, system.stack (.caller thread) = activity :: rest →
    activity.tours = true → Completes system thread rest

/-- **Nobody is ever stuck**, as long as no factory gets an object itself. -/
theorem deadlockFree_of_history {events : List (Event κ α)} (history : History events held system)
    (single : ∀ event ∈ events, event.nests = false) : DeadlockFree held system := by
  have reaping := history.invariant.reaping
  have locked := locked_of_reachable history.reachable
  have latched := latched_of_reachable history.reachable
  have flat := flat_of_history history single
  have busy {party : Party} (active : system.stack party ≠ []) :
      ∃ activity, system.activity? party = some activity := by
    rcases List.exists_cons_of_ne_nil active with ⟨activity, rest, doing⟩
    exact ⟨activity, congrArg List.head? doing⟩
  refine ⟨?_, ?_, Waits.acyclic reaping locked latched flat, ?_, ?_⟩
  · intro party key slot doing shard
    exact latched.not_mem doing (Option.some_ne_none shard ∘ Eq.symm)
  · intro party active
    rcases busy active with ⟨activity, doing⟩
    rcases prospect_of_doing latched doing with builds | advance | waits
    · exact Or.inl (acts_of_building reaping doing builds)
    · exact Or.inl (acts_of_advance reaping doing advance)
    · exact Or.inr ⟨_, waits⟩
  · intro party active
    rcases busy active with ⟨activity, doing⟩
    exact exists_acting reaping locked latched flat (by rw [doing]; exact Option.some_ne_none activity)
  · exact fun thread activity rest => completes_of_tours history.reachable

/-- Thread 1 waits for the object that thread 0 builds. The factory of thread 0 has begun a purge, which
waits for thread 2 to have counted the entries of a shard, and thread 3 waits for a reaper that purges. -/
def entangled : List (Instant × Move Nat Unit) :=
  [.begin 0 (.get 7), .proceed 0, .proceed 0, .proceed 0, .begin 1 (.get 7), .proceed 1,
    .begin 2 .liveCount, .proceed 2, .proceed 2, .proceed 2, .begin 0 .purge, .proceed 0, .proceed 0,
    .begin 3 (.spawnReaper {}), .reap 0].map (0, ·)
    ++ [.reap 0, .begin 3 (.stopReaper 0)].map (30000000000, ·)

theorem deadlockFree_of_entangled :
    let system := (follow [] (new 2 id) entangled).2
    (∀ event ∈ trace [] (new 2 id) entangled, event.nests = false) ∧
      system.stack (.caller 0) = [.approaching 1 0, .building 7 0] ∧
      system.stack (.caller 1) = [.entering 7 0] ∧
      system.stack (.caller 2) = [.counting 1 [(7, 0)] 0] ∧
      system.stack (.caller 3) = [.joining 0] ∧ system.stack (.agent 0) = [.approaching 0 0] ∧
      DeadlockFree (follow [] (new 2 id) entangled).1 system := by
  intro system
  have single : ∀ event ∈ trace [] (new 2 id) entangled, event.nests = false := by decide
  refine ⟨single, by decide, by decide, by decide, by decide, by decide, ?_⟩
  exact deadlockFree_of_history (history_follow 2 id entangled) single

end Freedom

end Coordination.RegistrySystem
