import Coordination.Proofs.Registry.History
import Coordination.Proofs.Registry.Latching
import Mathlib.Logic.Relation

/-!
# Who waits for whom

A party waits for one of three things: for the lock of a slot, until an object is built for it; for the
latch of a shard, until those that look at the shard are through; or for a reaper to end. As long as no
factory gets an object itself, there is an order in this (`rank`). Whoever builds an object waits for no
lock, since to get it is the outermost thing that the thread does. A reaper waits for nothing but latches.
And whoever holds a latch waits for nothing at all. So nobody waits for himself, over however many others
(`Waits.acyclic`), and behind everybody who waits there is somebody who does not (`exists_acting`).
-/

namespace Coordination.RegistrySystem

variable {κ α : Type}

/-- The shard whose latch keeps a party out. -/
def Activity.barred? (registry : Registry κ α) : Activity κ → Option Nat
  | .lookingUp key =>
      if (registry.latchOf key).admitsReader then none else some (registry.shardOf key % registry.shards)
  | .inserting key =>
      if (registry.latchOf key).admitsWriter then none else some (registry.shardOf key % registry.shards)
  | .approaching shard _ =>
      if registry.shards ≤ shard ∨ (registry.latches.get shard).admitsWriter then none else some shard
  | .surveying shard _ | .measuring shard _ _ =>
      if registry.shards ≤ shard ∨ (registry.latches.get shard).admitsReader then none else some shard
  | _ => none

/-- A party cannot go on before another one has. -/
inductive Waits (system : RegistrySystem κ α) (party : Party) : Party → Prop where
  | slot {key : κ} {slot : SlotId} {owner : Party}
      (doing : system.activity? party = some (.entering key slot))
      (locked : (system.registry.slots.get slot).holder = some owner) : Waits system party owner
  | latch {activity : Activity κ} {shard : Nat} {other : Party}
      (doing : system.activity? party = some activity)
      (barred : activity.barred? system.registry = some shard)
      (holds : other ∈ (system.registry.latches.get shard).holders) : Waits system party other
  | reaper {id : Nat} (doing : system.activity? party = some (.joining id))
      (alive : system.reapers[id]?.any (·.phase ≠ .ended) = true) : Waits system party (.agent id)

/-- How far a party may be from one that waits for nobody. -/
def Activity.rank : Activity κ → Nat
  | .entering _ _ => 3
  | .joining _ => 2
  | .lookingUp _ | .inserting _ | .approaching _ _ | .surveying _ _ | .measuring _ _ _ => 1
  | _ => 0

def rank (system : RegistrySystem κ α) (party : Party) : Nat :=
  ((system.activity? party).map Activity.rank).getD 0

/-- Whether a move goes on with something that has begun, or ends it. -/
def Move.pursues : Move κ α → Bool
  | .begin _ (.built _) | .begin _ .failed => true
  | .begin _ _ => false
  | .proceed _ | .reap _ => true

/-- What is to be expected of a party in the middle of something. -/
inductive Prospect [DecidableEq κ] (system : RegistrySystem κ α) (party : Party)
    (activity : Activity κ) : Prop where
  | builds (builds : activity.isBuilding = true)
  | goes {stepped : Stepped κ α} (advance : Advance system party activity stepped)
  | waits {other : Party} (waits : Waits system party other)

/-- A party can go on now, or at some later instant, without beginning an operation. -/
def Acts [DecidableEq κ] (system : RegistrySystem κ α) (held : List (Reference κ)) (party : Party) : Prop :=
  ∃ now move stepped, move.party = party ∧ move.pursues = true ∧ system.perform held now move = some stepped

/-- Whether a thread begins to get an object while it builds another one. -/
def Event.nests (event : Event κ α) : Bool :=
  match event.move with
  | .begin thread (.get _) => !(event.before.stack (.caller thread)).isEmpty
  | _ => false

/-- To get an object is the outermost thing that a thread does. -/
def Flat (system : RegistrySystem κ α) : Prop :=
  ∀ thread, ∀ activity ∈ (system.stack (.caller thread)).dropLast, activity.gets = false

section Nesting

theorem dropLast_subset_cons (activity : Activity κ) (stack : List (Activity κ)) {other : Activity κ}
    (mem : other ∈ stack.dropLast) : other ∈ (activity :: stack).dropLast := by
  rw [List.dropLast_cons_of_ne_nil (by rintro rfl; cases mem)]
  exact List.mem_cons_of_mem _ mem

theorem mem_dropLast_cons {activity other : Activity κ} {stack : List (Activity κ)}
    (mem : other ∈ (activity :: stack).dropLast) :
    other = activity ∧ stack ≠ [] ∨ other ∈ stack.dropLast := by
  by_cases last : stack = []
  · subst last
    cases mem
  · rw [List.dropLast_cons_of_ne_nil last] at mem
    exact (List.mem_cons.mp mem).imp_left fun same => ⟨same, last⟩

variable [DecidableEq κ] {registry after : Registry κ α} {party : Party}
  {before following : List (Activity κ)} {gain : Option (Reference κ)}

/-- A party that goes on with what it is doing gets no object inside of it. -/
theorem Change.flat (change : Change registry party before after following gain)
    (busy : before.head?.all Activity.isBuilding = false)
    (flat : ∀ activity ∈ before.dropLast, activity.gets = false) :
    ∀ activity ∈ following.dropLast, activity.gets = false := by
  have turns {activity next : Activity κ} {stack : List (Activity κ)}
      (flat : ∀ other ∈ (activity :: stack).dropLast, other.gets = false)
      (same : activity.gets = false → next.gets = false) :
      ∀ other ∈ (next :: stack).dropLast, other.gets = false := by
    intro other mem
    rcases mem_dropLast_cons mem with ⟨rfl, nested⟩ | mem
    · refine same (flat activity ?_)
      rw [List.dropLast_cons_of_ne_nil nested]
      exact List.mem_cons_self
    · exact flat other (dropLast_subset_cons activity stack mem)
  have ends {activity : Activity κ} {stack : List (Activity κ)}
      (flat : ∀ other ∈ (activity :: stack).dropLast, other.gets = false) :
      ∀ other ∈ stack.dropLast, other.gets = false :=
    fun other mem => flat other (dropLast_subset_cons activity stack mem)
  cases change with
  | begin ready => cases ready.symm.trans busy
  | turn stack loose looseNext stays same => exact turns flat same.trans
  | pass stack shard change loose looseNext keeps passes other => exact turns flat fun _ => other
  | finish | publish | fail | join => exact ends flat
  | find | insert | retry | lock | occupy | skip | retire | unlink | vacate => exact turns flat id

variable {held : List (Reference κ)} {system : RegistrySystem κ α} {operation : Operation κ α}

theorem busy_of_proceed {stepped : Stepped κ α} (performed : system.proceed party = some stepped) :
    (system.stack party).head?.all Activity.isBuilding = false := by
  rcases exists_advance performed with ⟨activity, rest, doing, advance⟩
  rw [doing]
  cases advance <;> rfl

omit [DecidableEq κ] in
/-- A thread that begins an operation is in the middle of nothing, if the operation is to get an object. -/
theorem flat_begin (flat : Flat system) (thread : ThreadId)
    (single : ∀ key, operation = .get key → system.stack (.caller thread) = []) :
    Flat (system.begin (.caller thread) operation).state := by
  have rests {after : RegistrySystem κ α} (same : after.activities = system.activities) : Flat after := by
    intro other
    rw [stack_congr same]
    exact flat other
  have pushes {changed : RegistrySystem κ α} {activity : Activity κ}
      (same : changed.activities = system.activities)
      (free : system.stack (.caller thread) ≠ [] → activity.gets = false) :
      Flat (changed.push (.caller thread) activity) := by
    intro other next mem
    rw [stack_push, stack_congr same, stack_congr same] at mem
    split at mem
    · rcases mem_dropLast_cons mem with ⟨rfl, nested⟩ | mem
      · exact free nested
      · exact flat thread next mem
    · exact flat other next mem
  have ends {changed : RegistrySystem κ α} (same : changed.activities = system.activities) :
      Flat { changed with activities := changed.activities.modify (.caller thread) List.tail } := by
    intro other next mem
    rw [stack_modifyStack, stack_congr same, stack_congr same] at mem
    split at mem
    · cases doing : system.stack (.caller thread) with
      | nil => simp [doing] at mem
      | cons activity stack =>
          rw [doing] at mem
          exact flat thread next (doing ▸ dropLast_subset_cons activity stack mem)
    · exact flat other next mem
  cases operation with
  | get key => exact pushes rfl fun nested => absurd (single key rfl) nested
  | purge => exact pushes rfl fun _ => rfl
  | size => exact pushes rfl fun _ => rfl
  | liveCount => exact pushes rfl fun _ => rfl
  | stopReaper id => exact pushes rfl fun _ => rfl
  | release | own | disown | isReaperRunning => exact rests rfl
  | refer | spawnReaper =>
      simp only [begin]
      split <;> exact rests rfl
  | built | failed =>
      simp only [begin]
      split
      · exact ends rfl
      · exact rests rfl

theorem flat_of_history {events : List (Event κ α)} (history : History events held system)
    (single : ∀ event ∈ events, event.nests = false) : Flat system := by
  induction history with
  | new shards shardOf =>
      intro thread activity mem
      cases mem
  | @step events held system now move stepped history performed ih =>
      have flat := ih fun event mem => single event (List.mem_append_left _ mem)
      have new := single _ (List.mem_append_right _ List.mem_cons_self)
      have leads := perform_leads history.invariant.reaping performed
      cases move with
      | begin thread operation =>
          simp only [perform] at performed
          split at performed
          · obtain rfl := Option.some.inj performed
            refine flat_begin flat thread ?_
            rintro key rfl
            simpa [Event.nests] using new
          · cases performed
      | proceed thread =>
          have changes := (proceed_performs performed).changes
          intro other activity mem
          by_cases own : thread = other
          · subst own
            exact changes.change.flat (busy_of_proceed performed) (flat thread) activity mem
          · rw [changes.others _ (fun same => own (Party.caller.inj same))] at mem
            exact flat other activity mem
      | reap id =>
          intro thread
          rw [leads.stack_of_ne (by rintro ⟨⟩)]
          exact flat thread

omit [DecidableEq κ] in
theorem Flat.outermost (flat : Flat system) {thread : ThreadId} {activity : Activity κ}
    {rest : List (Activity κ)} (doing : system.stack (.caller thread) = activity :: rest)
    (gets : activity.gets = true) : rest = [] := by
  by_contra nested
  have other := flat thread activity ?_
  · cases gets.symm.trans other
  · rw [doing, List.dropLast_cons_of_ne_nil nested]
    exact List.mem_cons_self

end Nesting

section Waiting

variable [DecidableEq κ] {held : List (Reference κ)} {system : RegistrySystem κ α}
  {party other : Party} {activity : Activity κ}

/-- A party in the middle of something builds an object, or it can go on, or it waits for another one. -/
theorem prospect_of_doing (latched : Latched system.registry system.stack)
    (doing : system.activity? party = some activity) : Prospect system party activity := by
  have reads {shard : Nat} (full : (system.registry.latches.get shard).admitsReader = false)
      (barred : activity.barred? system.registry = some shard) : Prospect system party activity := by
    rcases Latch.exists_holder_of_reader full with ⟨other, holds⟩
    exact .waits (.latch doing barred holds)
  have writes {shard : Nat} (full : (system.registry.latches.get shard).admitsWriter = false)
      (barred : activity.barred? system.registry = some shard) : Prospect system party activity := by
    rcases Latch.exists_holder_of_writer (latched.manned shard) full with ⟨other, holds⟩
    exact .waits (.latch doing barred holds)
  cases activity with
  | building => exact .builds rfl
  | lookingUp key =>
      cases admits : (system.registry.latchOf key).admitsReader with
      | true =>
          cases found : system.registry.find key with
          | some slot => exact .goes (.find admits found)
          | none => exact .goes (.miss admits found)
      | false => exact reads admits (by simp [Activity.barred?, admits])
  | inserting key =>
      cases admits : (system.registry.latchOf key).admitsWriter with
      | true => exact .goes (.insert admits)
      | false => exact writes admits (by simp [Activity.barred?, admits])
  | entering key slot =>
      cases locked : (system.registry.slots.get slot).holder with
      | some owner => exact .waits (.slot doing locked)
      | none =>
          cases retired : (system.registry.slots.get slot).retired with
          | true => exact .goes (.retry locked retired)
          | false =>
              cases alive : system.registry.live? (system.registry.slots.get slot) with
              | some object => exact .goes (.join locked retired alive)
              | none => exact .goes (.lock locked retired alive)
  | approaching shard removed =>
      rcases Nat.lt_or_ge shard system.registry.shards with inside | outside
      · cases admits : (system.registry.latches.get shard).admitsWriter with
        | true => exact .goes (.occupy removed inside admits)
        | false => exact writes admits (by simp [Activity.barred?, inside, admits])
      · exact .goes (advance_endPurge removed outside)
  | surveying shard count =>
      rcases Nat.lt_or_ge shard system.registry.shards with inside | outside
      · cases admits : (system.registry.latches.get shard).admitsReader with
        | true => exact .goes (.visit count inside admits)
        | false => exact reads admits (by simp [Activity.barred?, inside, admits])
      · exact .goes (.surveyed count outside)
  | measuring shard count wanted =>
      rcases Nat.lt_or_ge shard system.registry.shards with inside | outside
      · cases admits : (system.registry.latches.get shard).admitsReader with
        | true => exact .goes (.measure count wanted inside admits)
        | false => exact reads admits (by simp [Activity.barred?, inside, admits])
      · cases wanted with
        | answer => exact .goes (.measured count outside)
        | log removed => exact .goes (.logged count removed outside)
  | sweeping shard left removed => exact .goes (advance_sweep shard removed left)
  | unlinking key shard left removed => exact .goes (.unlink key shard left removed)
  | counting shard left count =>
      cases left with
      | nil => exact .goes (.leave shard count)
      | cons entry left => exact .goes (.count shard entry left count)
  | joining id =>
      cases alive : system.reapers[id]?.any (·.phase ≠ .ended) with
      | true => exact .waits (.reaper doing alive)
      | false => exact .goes (.joined alive)

omit [DecidableEq κ] in
/-- A reaper that purges makes the steps of its purge. -/
theorem owns_of_activity (reaping : Reaping system) {id : Nat}
    (doing : system.activity? (.agent id) = some activity) :
    ∃ reaper, system.reapers[id]? = some reaper ∧ reaper.phase = .purging ∧ activity.isPurge = true := by
  have own := reaping id
  split at own
  · rename_i owns
    rcases own with ⟨first, single, purge⟩
    have same : (system.stack (.agent id)).head? = some activity := doing
    rw [single, List.head?_cons, Option.some.injEq] at same
    rcases (Option.any_eq_true _ _).mp owns with ⟨reaper, listed, owns⟩
    exact ⟨reaper, listed, by simpa [Reaper.owns] using owns, same ▸ purge⟩
  · have none : (system.stack (.agent id)).head? = some activity := doing
    rw [own] at none
    cases none

/-- A party makes the step that its activity comes to, except that a reaper keeps a reply to itself. -/
theorem step_of_advance (reaping : Reaping system) (doing : system.activity? party = some activity)
    {stepped : Stepped κ α} (advance : Advance system party activity stepped) (now : Instant) :
    ∃ made, system.step now party = some made ∧ (stepped.reply = none → made = stepped) := by
  have proceeded := advance.proceeds doing
  cases party with
  | caller thread => exact ⟨stepped, proceeded, fun _ => rfl⟩
  | agent id =>
      rcases owns_of_activity reaping doing with ⟨reaper, listed, purges, _⟩
      cases replies : stepped.reply with
      | none => exact ⟨stepped, (Wake.purge purges proceeded replies).reaps listed, fun _ => rfl⟩
      | some reply => exact ⟨_, (Wake.rest purges proceeded replies).reaps listed, by rintro ⟨⟩⟩

theorem acts_of_step {now : Instant} {stepped : Stepped κ α}
    (performed : system.step now party = some stepped) : Acts system held party := by
  cases party with
  | caller thread => exact ⟨now, .proceed thread, stepped, rfl, rfl, performed⟩
  | agent id => exact ⟨now, .reap id, stepped, rfl, rfl, performed⟩

theorem acts_of_advance (reaping : Reaping system) (doing : system.activity? party = some activity)
    {stepped : Stepped κ α} (advance : Advance system party activity stepped) :
    Acts system held party := by
  rcases step_of_advance reaping doing advance 0 with ⟨made, performed, _⟩
  exact acts_of_step performed

/-- A factory can end, if only by failing. -/
theorem acts_of_building (reaping : Reaping system) (doing : system.activity? party = some activity)
    (builds : activity.isBuilding = true) : Acts system held party := by
  cases party with
  | caller thread =>
      have inner : (system.stack (.caller thread)).head? = some activity := doing
      have ready : system.canBegin held thread .failed = true := by
        rw [canBegin, inner, Option.any_some]
        exact builds
      exact ⟨0, .begin thread .failed, _, rfl, rfl, if_pos ready⟩
  | agent id =>
      rcases owns_of_activity reaping doing with ⟨_, _, _, purge⟩
      cases activity with
      | building => cases purge
      | _ => cases builds

/-- A reaper that does not purge waits for an instant at most. -/
theorem acts_of_alive (reaping : Reaping system) {id : Nat} (idle : system.activity? (.agent id) = none)
    (alive : system.reapers[id]?.any (·.phase ≠ .ended) = true) : Acts system held (.agent id) := by
  rcases (Option.any_eq_true _ _).mp alive with ⟨reaper, listed, running⟩
  have acts (now : Instant) {stepped : Stepped κ α} (wake : Wake system now id reaper stepped) :
      Acts system held (.agent id) := acts_of_step (wake.reaps listed)
  cases phase : reaper.phase with
  | starting => exact acts 0 (.start phase)
  | waiting deadline =>
      have late : deadline ≤ deadline := Nat.le_refl deadline
      cases stopped : reaper.stopped with
      | true => exact acts deadline (.ends phase (Or.inl stopped))
      | false =>
          cases owned : system.isOwned with
          | true => exact acts deadline (.sweep phase stopped late owned)
          | false => exact acts deadline (.ends phase (Or.inr ⟨late, owned⟩))
  | purging =>
      rcases reaping.purging listed phase with ⟨activity, doing, _⟩
      have none : (system.stack (.agent id)).head? = none := idle
      rw [doing] at none
      cases none
  | ended => simp [phase] at running

omit [DecidableEq κ] in
/-- Whoever waits is farther from the end than those for whom he waits. -/
theorem Waits.rank_lt (waits : Waits system party other) (reaping : Reaping system)
    (locked : Locked system.registry system.stack) (latched : Latched system.registry system.stack)
    (flat : Flat system) : system.rank other < system.rank party := by
  cases waits with
  | @slot key slot _ doing holds =>
      have mine : system.rank party = 3 := by simp [rank, doing, Activity.rank]
      rcases locked slot other holds with ⟨name, builds⟩
      rw [mine, rank]
      cases inner : system.activity? other with
      | none => simp
      | some activity =>
          cases activity with
          | entering wanted place =>
              -- The owner of the lock builds below, and to get an object is never done inside of that.
              rcases List.head?_eq_some_iff.mp inner with ⟨rest, stacked⟩
              cases other with
              | agent id =>
                  rcases owns_of_activity reaping inner with ⟨_, _, _, purge⟩
                  cases purge
              | caller thread =>
                  obtain rfl := flat.outermost stacked rfl
                  replace stacked : system.stack (.caller thread) = _ := stacked
                  rw [stacked] at builds
                  cases List.mem_singleton.mp builds
          | _ => simp [Activity.rank]
  | @latch activity shard _ doing barred holds =>
      have mine : system.rank party = 1 := by
        simp only [rank, doing, Option.map_some, Option.getD_some]
        cases activity <;> simp_all [Activity.rank, Activity.barred?]
      rcases latched.held shard other holds with ⟨inner, does, inside, _⟩
      have active : system.activity? other = some inner := does
      rw [mine, rank, active]
      cases inner <;> simp_all [Activity.rank, Activity.latch?]
  | @reaper id doing alive =>
      have mine : system.rank party = 2 := by simp [rank, doing, Activity.rank]
      rw [mine, rank]
      cases inner : system.activity? (.agent id) with
      | none => simp
      | some activity =>
          rcases owns_of_activity reaping inner with ⟨_, _, _, purge⟩
          cases activity <;> simp_all [Activity.rank, Activity.isPurge]

omit [DecidableEq κ] in
/-- Nobody waits for himself, over however many others. -/
theorem Waits.acyclic (reaping : Reaping system) (locked : Locked system.registry system.stack)
    (latched : Latched system.registry system.stack) (flat : Flat system) (party : Party) :
    ¬Relation.TransGen (Waits system) party party := by
  have falls {first last : Party} (waits : Relation.TransGen (Waits system) first last) :
      system.rank last < system.rank first := by
    induction waits with
    | single waits => exact waits.rank_lt reaping locked latched flat
    | tail _ waits ih => exact Nat.lt_trans (waits.rank_lt reaping locked latched flat) ih
  exact fun waits => Nat.lt_irrefl _ (falls waits)

/-- Behind everybody who waits there is somebody who can go on. -/
theorem exists_acting (reaping : Reaping system) (locked : Locked system.registry system.stack)
    (latched : Latched system.registry system.stack) (flat : Flat system)
    (busy : system.activity? party ≠ none) :
    ∃ other, Relation.ReflTransGen (Waits system) party other ∧ Acts system held other := by
  induction far : system.rank party using Nat.strongRecOn generalizing party with
  | _ far ih =>
      rcases Option.ne_none_iff_exists'.mp busy with ⟨activity, doing⟩
      cases prospect_of_doing latched doing with
      | builds builds => exact ⟨party, .refl, acts_of_building reaping doing builds⟩
      | goes advance => exact ⟨party, .refl, acts_of_advance reaping doing advance⟩
      | @waits other waits =>
          have less := waits.rank_lt reaping locked latched flat
          by_cases still : system.activity? other = none
          · -- Only a reaper between two purges is waited for while it does nothing.
            refine ⟨other, .single waits, ?_⟩
            cases waits with
            | @slot key slot _ doing locks =>
                rcases locked slot other locks with ⟨name, builds⟩
                have none : (system.stack other).head? = none := still
                rw [List.head?_eq_none_iff.mp none] at builds
                cases builds
            | @latch activity shard _ doing barred holds =>
                rcases latched.held shard other holds with ⟨inner, does, _⟩
                cases still.symm.trans does
            | reaper doing alive => exact acts_of_alive reaping still alive
          · rcases ih _ (far ▸ less) still rfl with ⟨last, chain, acts⟩
            exact ⟨last, chain.head waits, acts⟩

end Waiting

end Coordination.RegistrySystem
