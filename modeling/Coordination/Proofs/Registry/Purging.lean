import Coordination.Proofs.Registry.Retirement
import Mathlib.Algebra.BigOperators.Group.Finset.Piecewise
import Mathlib.Data.List.Nodup

/-!
# What purges take out of a map

Every purge returns the number of the entries that it has unlinked itself. Hence all that ever came into
a map is still there, or it has been counted by one purge.
-/

namespace Coordination.RegistrySystem

variable {κ α : Type}

section Counting

variable {system changed : RegistrySystem κ α} {party : Party} {activity : Activity κ}
  {rest : List (Activity κ)}

theorem unreported_turnTo (doing : system.stack party = activity :: rest) (next : Activity κ)
    (same : changed.activities = system.activities) :
    unreported ((changed.turnTo party next).stack party) = next.unreported + unreported rest := by
  rw [stack_turnTo_of_doing doing next same]
  simp [unreported]

theorem unreported_finish (doing : system.stack party = activity :: rest) (reply : Reply)
    (log : List Log.Entry) (same : changed.activities = system.activities) :
    unreported ((changed.finish party reply log).state.stack party) = unreported rest := by
  rw [stack_finish_of_doing doing reply log same]

variable [DecidableEq κ]

/-- What a party has counted and not yet returned stays so in a step, unless the step returns it. -/
theorem unreported_of_advance {stepped : Stepped κ α}
    (advance : Advance system party activity stepped) (doing : system.stack party = activity :: rest)
    (spares : ∀ key shard left removed, activity ≠ .unlinking key shard left removed) :
    unreported (stepped.state.stack party) + (activity.result? stepped.reply).getD 0
      = activity.unreported + unreported rest := by
  have turns {changed : RegistrySystem κ α} (next : Activity κ)
      (same : changed.activities = system.activities)
      (counts : next.unreported = activity.unreported) :
      unreported ((changed.turnTo party next).stack party) + (activity.result? none).getD 0
        = activity.unreported + unreported rest := by
    rw [unreported_turnTo doing next same, counts]
    rfl
  have ends {changed : RegistrySystem κ α} {reply : Reply} {log : List Log.Entry}
      (same : changed.activities = system.activities)
      (returns : (activity.result? (some reply)).getD 0 = activity.unreported) :
      unreported ((changed.finish party reply log).state.stack party)
          + (activity.result? (some reply)).getD 0
        = activity.unreported + unreported rest := by
    rw [unreported_finish doing reply log same, returns, Nat.add_comm]
  cases advance with
  | find | miss | insert | retry | occupy | skip | retire | vacate | report | visit | count | leave =>
      exact turns _ rfl rfl
  | measure count wanted => exact turns _ rfl (by cases wanted <;> rfl)
  | lock => exact turns (.building _ _) rfl rfl
  | join | purged | measured | logged | surveyed | joined => exact ends rfl rfl
  | unlink key shard left removed => exact absurd rfl (spares key shard left removed)

end Counting

section Parties

/-- What all steps make up is what the steps of every party make up. -/
theorem sum_map_eq_sum_stepsOf (weight : Event κ α → Nat) {events : List (Event κ α)}
    {parties : Finset Party} (all : ∀ event ∈ events, event.move.party ∈ parties) :
    (events.map weight).sum = ∑ party ∈ parties, ((stepsOf party events).map weight).sum := by
  induction events with
  | nil => simp [stepsOf]
  | cons event rest ih =>
      have split (party : Party) : ((stepsOf party (event :: rest)).map weight).sum
          = (if event.move.party = party then weight event else 0)
            + ((stepsOf party rest).map weight).sum := by
        by_cases own : event.move.party = party
        · simp [stepsOf, own]
        · simp [stepsOf, own]
      rw [List.map_cons, List.sum_cons, ih fun other mem => all other (List.mem_cons_of_mem _ mem),
        Finset.sum_congr rfl fun party _ => split party, Finset.sum_add_distrib,
        Finset.sum_ite_eq, if_pos (all event List.mem_cons_self)]

theorem sum_map_eq_of_stepsOf {weight other : Event κ α → Nat} {events : List (Event κ α)}
    (same : ∀ party, ((stepsOf party events).map weight).sum
      = ((stepsOf party events).map other).sum) :
    (events.map weight).sum = (events.map other).sum := by
  have all : ∀ event ∈ events, event.move.party ∈ (events.map (·.move.party)).toFinset :=
    fun event mem => List.mem_toFinset.mpr (List.mem_map_of_mem mem)
  rw [sum_map_eq_sum_stepsOf weight all, sum_map_eq_sum_stepsOf other all]
  exact Finset.sum_congr rfl fun party _ => same party

variable [DecidableEq κ]

theorem sum_results (events : List (Event κ α)) :
    (results events).sum = (events.map fun event => event.result?.getD 0).sum := by
  induction events with
  | nil => rfl
  | cons event rest ih =>
      rw [results, List.filterMap_cons, List.map_cons, List.sum_cons, ← ih]
      cases event.result? with
      | none => simp [results]
      | some number => simp [results]

end Parties

section Histories

variable [DecidableEq κ] {events : List (Event κ α)} {held : List (Reference κ)}
  {system : RegistrySystem κ α} {now : Instant} {move : Move κ α} {stepped : Stepped κ α}

/-- One entry leaves the map when a key is unlinked. -/
theorem length_removed_of_unlink {registry : Registry κ α}
    (keys : (registry.entries.map (·.1)).Nodup) {key : κ} {slot : SlotId}
    (found : registry.find key = some slot) :
    (registry.entries.filter (· ∉ (registry.unlink key).entries)).length = 1 := by
  have single : [(key, slot)].Nodup := List.nodup_singleton _
  refine ((List.perm_ext_iff_of_nodup (keys.of_map.filter _) single).mpr ?_).length_eq
  intro entry
  rw [List.mem_filter, List.mem_singleton, decide_eq_true_iff]
  constructor
  · rintro ⟨mem, gone⟩
    have named : entry.1 = key := by
      by_contra apart
      exact gone (List.mem_filter.mpr ⟨mem, decide_eq_true apart⟩)
    exact List.inj_on_of_nodup_map keys mem (Registry.mem_entries_of_find found) named
  · rintro rfl
    refine ⟨Registry.mem_entries_of_find found, fun still => ?_⟩
    simpa using (List.mem_filter.mp still).2

/-- A party that goes on counts what it unlinks. -/
theorem counts_of_advance (reachable : Reachable held system) {party : Party} {activity : Activity κ}
    {rest : List (Activity κ)} (doing : system.stack party = activity :: rest) {inner : Stepped κ α}
    (advance : Advance system party activity inner) :
    unreported (inner.state.stack party) + (activity.result? inner.reply).getD 0
      = unreported (system.stack party)
        + (system.registry.entries.filter (· ∉ inner.state.registry.entries)).length := by
  have change := (advance.performs doing).changes.change
  rw [doing] at change ⊢
  by_cases unlinks : ∃ key shard left removed, activity = .unlinking key shard left removed
  · rcases unlinks with ⟨key, shard, left, removed, rfl⟩
    have counted := (orderly_of_reachable reachable).counted party key shard left removed
      (by rw [doing]; exact List.mem_cons_self)
    rcases counted with ⟨some, slot, found⟩
    have keys := (invariant_of_reachable reachable).sound.sound.keys
    cases advance
    rw [change.unlinked.1, change.unlinked.2, length_removed_of_unlink keys found]
    simp only [unreported, List.map_cons, List.sum_cons, Activity.unreported, Activity.result?,
      Option.getD_none]
    omega
  · have spares (key : κ) (shard : Nat) (left : List (κ × SlotId)) (removed : Nat) :
        activity ≠ .unlinking key shard left removed :=
      fun same => unlinks ⟨key, shard, left, removed, same⟩
    have still : system.registry.entries.filter (· ∉ inner.state.registry.entries) = [] := by
      refine List.filter_eq_nil_iff.mpr fun entry mem gone => ?_
      rcases change.entries.unlinks_of_not_mem mem (of_decide_eq_true gone) with
        ⟨shard, left, removed, _, same, _⟩
      exact spares _ _ _ _ (List.cons.inj same).1
    rw [unreported_of_advance advance doing spares, still]
    simp [unreported]

/-- In a step, a party counts what it unlinks. -/
theorem unreported_of_perform (reachable : Reachable held system)
    (performed : system.perform held now move = some stepped) :
    let event : Event κ α := ⟨held, system, now, move, stepped.state, stepped.reply⟩
    unreported (stepped.state.stack move.party) + event.result?.getD 0
      = unreported (system.stack move.party) + event.removed.length := by
  intro event
  have invariant := invariant_of_reachable reachable
  cases perform_leads invariant.reaping performed with
  | comes fresh entries reports others =>
      have none : event.result? = Option.none := by simp [event, Event.result?, fresh]
      have still : event.removed = [] := by simp [event, Event.removed, entries]
      rw [none, still, reports]
      rfl
  | @proceeds inner proceeded pursues registry frames =>
      rcases exists_advance proceeded with ⟨activity, rest, doing, advance⟩
      have active : system.activity? move.party = some activity := congrArg List.head? doing
      simp only [event, Event.result?, Event.removed, pursues, active, proceeded, registry, frames,
        Option.bind_some]
      exact counts_of_advance reachable doing advance

/-- What was in a map and what comes into it is what is in it then and what leaves it. -/
theorem perm_of_perform (reachable : Reachable held system)
    (performed : system.perform held now move = some stepped) :
    let event : Event κ α := ⟨held, system, now, move, stepped.state, stepped.reply⟩
    (system.registry.entries ++ event.inserted).Perm
      (stepped.state.registry.entries ++ event.removed) := by
  intro event
  have before := invariant_of_reachable reachable
  have after := invariant_of_reachable (reachable.step performed)
  have entries := before.sound.sound.keys.of_map
  have following := after.sound.sound.keys.of_map
  refine (List.perm_ext_iff_of_nodup ?_ ?_).mpr ?_
  · refine List.nodup_append.mpr ⟨entries, following.filter _, ?_⟩
    rintro entry mem _ new rfl
    simp [event, Event.inserted, mem] at new
  · refine List.nodup_append.mpr ⟨following, entries.filter _, ?_⟩
    rintro entry mem _ gone rfl
    simp [event, Event.removed, mem] at gone
  · intro entry
    simp only [event, Event.inserted, Event.removed, List.mem_append, List.mem_filter,
      decide_eq_true_iff]
    tauto

/-- A slot that comes into the map has the next number. -/
theorem numbers_of_perform (reachable : Reachable held system)
    (performed : system.perform held now move = some stepped) :
    let event : Event κ α := ⟨held, system, now, move, stepped.state, stepped.reply⟩
    List.range system.registry.nextSlot ++ event.inserted.map (·.2)
      = List.range stepped.state.registry.nextSlot := by
  intro event
  have invariant := invariant_of_reachable reachable
  have still (kept : ∀ entry ∈ stepped.state.registry.entries, entry ∈ system.registry.entries)
      (number : stepped.state.registry.nextSlot = system.registry.nextSlot) :
      List.range system.registry.nextSlot ++ event.inserted.map (·.2)
        = List.range stepped.state.registry.nextSlot := by
    have none : event.inserted = [] := by
      refine List.filter_eq_nil_iff.mpr fun entry mem new => ?_
      exact of_decide_eq_true new (kept entry mem)
    rw [none, number, List.map_nil, List.append_nil]
  rcases (invariant.transition performed).changes_or_rests with
    ⟨party, gain, changes⟩ | ⟨_, entries, number⟩
  · cases changes.change.entries with
    | same entries number => exact still (fun entry mem => entries ▸ mem) number
    | @insert key absent inserts =>
        rw [Registry.insert_of_find_eq_none absent] at inserts
        have unused : (key, system.registry.nextSlot) ∉ system.registry.entries :=
          fun mem => Nat.lt_irrefl _ (invariant.sound.sound.fresh _ mem)
        have new : event.inserted = [(key, system.registry.nextSlot)] := by
          have none : system.registry.entries.filter (· ∉ system.registry.entries) = [] :=
            List.filter_eq_nil_iff.mpr fun entry mem gone => of_decide_eq_true gone mem
          simp only [event, Event.inserted, inserts, List.filter_append, none, List.nil_append]
          exact List.filter_eq_self.mpr (by simpa using unused)
        rw [new, inserts, List.range_succ]
        rfl
    | unlink doing next unlinks =>
        refine still (fun entry mem => ?_) (by rw [unlinks]; rfl)
        rw [unlinks] at mem
        exact (List.mem_filter.mp mem).1
  · exact still (fun entry mem => entries ▸ mem) number

/-- The books of a map: what came in, what has left and what is there. -/
structure Booked (events : List (Event κ α)) (registry : Registry κ α) : Prop where
  numbered : (inserted events).map (·.2) = List.range registry.nextSlot
  moved : (inserted events).Perm (registry.entries ++ removed events)
  gone : ∀ entry ∈ removed events, (registry.slots.get entry.2).retired = true

theorem inserted_append_single (event : Event κ α) :
    inserted (events ++ [event]) = inserted events ++ event.inserted := by
  simp [inserted]

theorem removed_append_single (event : Event κ α) :
    removed (events ++ [event]) = removed events ++ event.removed := by
  simp [removed]

theorem booked_of_history (history : History events held system) : Booked events system.registry := by
  induction history with
  | new shards shardOf => exact ⟨rfl, .nil, by rintro entry ⟨⟩⟩
  | @step events held system now move stepped past performed ih =>
      have reachable := past.reachable
      have purges := purges_of_perform reachable performed
      refine ⟨?_, ?_, ?_⟩
      · rw [inserted_append_single, List.map_append, ih.numbered]
        exact numbers_of_perform reachable performed
      · rw [inserted_append_single, removed_append_single]
        generalize same : (⟨held, system, now, move, stepped.state, stepped.reply⟩ : Event κ α) = event
        have step : (system.registry.entries ++ event.inserted).Perm
            (stepped.state.registry.entries ++ event.removed) := by
          rw [← same]
          exact perm_of_perform reachable performed
        calc
          List.Perm (inserted events ++ event.inserted)
              ((system.registry.entries ++ removed events) ++ event.inserted) :=
            ih.moved.append_right _
          List.Perm _ ((system.registry.entries ++ event.inserted) ++ removed events) := by
            simp only [List.append_assoc]
            exact List.perm_append_comm.append_left _
          List.Perm _ ((stepped.state.registry.entries ++ event.removed) ++ removed events) :=
            step.append_right _
          List.Perm _ (stepped.state.registry.entries ++ (removed events ++ event.removed)) := by
            rw [List.append_assoc]
            exact List.perm_append_comm.append_left _
      · intro entry mem
        rw [removed_append_single, List.mem_append] at mem
        refine purges.stays entry.2 ?_
        rcases mem with former | new
        · exact ih.gone entry former
        · rcases purges.unlinks entry new with ⟨_, _, _, _, _, _, retired, _⟩
          exact retired

theorem counted_of_history (history : History events held system) (party : Party) :
    (removed (stepsOf party events)).length
      = (results (stepsOf party events)).sum + unreported (system.stack party) := by
  induction history with
  | new shards shardOf => rfl
  | @step events held system now move stepped past performed ih =>
      have reachable := past.reachable
      let event : Event κ α := ⟨held, system, now, move, stepped.state, stepped.reply⟩
      have appended : stepsOf party (events ++ [event])
          = stepsOf party events ++ stepsOf party [event] := List.filter_append _ _
      by_cases own : move.party = party
      · have counts : unreported (stepped.state.stack party) + event.result?.getD 0
            = unreported (system.stack party) + event.removed.length :=
          own ▸ unreported_of_perform reachable performed
        have alone : stepsOf party [event] = [event] := by simp [stepsOf, event, own]
        rw [appended, alone, removed_append_single, List.length_append, ih, sum_results, sum_results,
          List.map_append, List.sum_append, List.map_singleton, List.sum_singleton]
        omega
      · have none : stepsOf party [event] = [] := by simp [stepsOf, event, own]
        have leads := perform_leads (invariant_of_reachable reachable).reaping performed
        rw [appended, none, List.append_nil, ih, leads.stack_of_ne own]

/-- A past of a registry in which purges have taken out what nobody uses. -/
structure Purging (events : List (Event κ α)) (system : RegistrySystem κ α) : Prop where
  purges : ∀ event ∈ events, event.Purges
  /-- Nobody has a reference to the object of a retired slot. -/
  dead : ∀ slot, (system.registry.slots.get slot).retired = true →
    system.registry.live? (system.registry.slots.get slot) = none
  /-- A slot that has come into the map is there until it is retired. -/
  kept : ∀ entry ∈ inserted events, (system.registry.slots.get entry.2).retired = false →
    entry ∈ system.registry.entries
  /-- A retired slot is in the map only as long as a purge is about to unlink it. -/
  leaving : ∀ entry ∈ system.registry.entries, (system.registry.slots.get entry.2).retired = true →
    ∃ party left removed, .unlinking entry.1
      (system.registry.shardOf entry.1 % system.registry.shards) left removed ∈ system.stack party
  /-- While no purge is at work on a shard, its slots are in the map exactly if they are not retired. -/
  settled : ∀ entry ∈ inserted events,
    (∀ party, ∀ activity ∈ system.stack party,
      activity.shard? ≠ some (system.registry.shardOf entry.1 % system.registry.shards)) →
    (entry ∈ system.registry.entries ↔ (system.registry.slots.get entry.2).retired = false)
  /-- Every slot is inserted once. -/
  numbered : (inserted events).map (·.2) = List.range system.registry.nextSlot
  /-- What came into the map is there, or has been unlinked, and only once. -/
  moved : (inserted events).Perm (system.registry.entries ++ removed events)
  /-- Every purge counts what it unlinks itself. -/
  counted : ∀ party, (removed (stepsOf party events)).length
    = (results (stepsOf party events)).sum + unreported (system.stack party)
  total : (∀ party, ∀ activity ∈ system.stack party, activity.sweeps = false) →
    (inserted events).length = system.registry.size + (results events).sum

/-- **Purges take out what nobody uses, once and counted**, in whatever order gets, factories that may
panic, drops, purges and the sweeps of reapers take their steps. -/
theorem purging_of_history (history : History events held system) : Purging events system := by
  have reachable := history.reachable
  have invariant := invariant_of_reachable reachable
  have orderly := orderly_of_reachable reachable
  have booked := booked_of_history history
  have counted := counted_of_history history
  have kept : ∀ entry ∈ inserted events, (system.registry.slots.get entry.2).retired = false →
      entry ∈ system.registry.entries := by
    intro entry mem usable
    rcases List.mem_append.mp (booked.moved.mem_iff.mp mem) with here | gone
    · exact here
    · rw [booked.gone entry gone] at usable
      cases usable
  have leaving : ∀ entry ∈ system.registry.entries,
      (system.registry.slots.get entry.2).retired = true → ∃ party left removed,
        .unlinking entry.1 (system.registry.shardOf entry.1 % system.registry.shards) left removed
          ∈ system.stack party := by
    intro entry mem retired
    rcases orderly.leaving entry mem retired with ⟨party, shard, left, removed, unlinks⟩
    have inside := (invariant.sound.fits party _ unlinks).2.2.2.1
    exact ⟨party, left, removed, inside ▸ unlinks⟩
  refine ⟨history.each fun past performed => purges_of_perform past.reachable performed,
    orderly.dead, kept, leaving, ?_, booked.numbered, booked.moved, counted, ?_⟩
  · intro entry mem unpurged
    refine ⟨fun here => ?_, kept entry mem⟩
    rw [← Bool.not_eq_true]
    intro retired
    rcases leaving entry here retired with ⟨party, left, removed, unlinks⟩
    exact unpurged party _ unlinks rfl
  · intro rests
    have returned : (removed events).length = (results events).sum := by
      rw [sum_results, removed, List.length_flatMap]
      refine sum_map_eq_of_stepsOf fun party => ?_
      rw [← sum_results, ← List.length_flatMap, ← removed, counted party,
        unreported_eq_zero (rests party), Nat.add_zero]
    rw [booked.moved.length_eq, List.length_append, returned, Registry.size]

/-- The purge of thread 2 comes to its end while a reaper sweeps the map, which has the slot of key 8 whose
factory has panicked. -/
def swept : List (Instant × Move Nat Unit) :=
  overtaken ++ [(0, .begin 0 (.spawnReaper {})), (0, .reap 0)]
    ++ [.reap 0, .reap 0, .proceed 2, .reap 0, .reap 0, .reap 0, .reap 0, .reap 0, .reap 0, .reap 0,
      .proceed 2, .proceed 2].map (30000000000, ·)

theorem purging_of_swept :
    let events := trace [] (new 1 fun _ => 0) swept
    let system := (follow [] (new 1 fun _ => 0) swept).2
    inserted events = [(7, 0), (7, 1), (8, 2)] ∧ removed events = [(7, 0), (8, 2)] ∧
      results events = [1, 1] ∧ system.registry.size = 1 ∧ Purging events system := by
  intro events system
  refine ⟨by decide, by decide, by decide, by decide, ?_⟩
  exact purging_of_history (history_follow 1 (fun _ => 0) swept)

end Histories

end Coordination.RegistrySystem
