import Coordination.Proofs.Registry.Locking

/-!
# The lives of reapers

A reaper owns the registry while it sweeps and at no other time, so the registry is gone as soon as nobody
else owns it and no reaper is in the middle of a sweep. What a step makes of a reaper is said once
(`Reaper.Becomes`); that a reaper ends for two reasons only, and that it is never seen again once somebody
has waited for its end, is read off it (`reaped_of_history`).
-/

namespace Coordination.RegistrySystem

variable {κ α : Type}

/-- A reaper that has come to its end. -/
def HasEnded (system : RegistrySystem κ α) (id : Nat) : Prop :=
  ∃ reaper, system.reapers[id]? = some reaper ∧ reaper.phase = .ended

/-- A thread that has stopped a reaper goes on, because the reaper has come to its end. -/
def Event.Joins (event : Event κ α) (id : Nat) : Prop :=
  ∃ thread, event.move = .proceed thread ∧ event.before.activity? (.caller thread) = some (.joining id)

/-- Another reference to the registry is only made from one that is there. -/
def Event.Clones (event : Event κ α) : Prop :=
  ∀ thread, event.move = .begin thread .own → 0 < event.before.owners

/-- What a step of a schedule makes of a reaper. -/
inductive Reaper.Becomes (system : RegistrySystem κ α) (now : Instant) (move : Move κ α) (id : Nat)
    (reaper : Reaper) : Reaper → Prop where
  | stays : Becomes system now move id reaper reaper
  | stops (thread : ThreadId) (begins : move = .begin thread (.stopReaper id)) :
      Becomes system now move id reaper { reaper with stopped := true }
  /-- It is new, or its sweep is over. -/
  | rests (deadline : Instant) (wakes : move = .reap id)
      (busy : reaper.phase = .starting ∨ reaper.phase = .purging) :
      Becomes system now move id reaper { reaper with phase := .waiting deadline }
  | sweeps {deadline : Instant} (wakes : move = .reap id) (waits : reaper.phase = .waiting deadline)
      (unstopped : reaper.stopped = false) (late : deadline ≤ now) (owned : system.isOwned = true) :
      Becomes system now move id reaper { reaper with phase := .purging }
  | ends {deadline : Instant} (wakes : move = .reap id) (waits : reaper.phase = .waiting deadline)
      (reason : reaper.stopped = true ∨ deadline ≤ now ∧ system.isOwned = false) :
      Becomes system now move id reaper { reaper with phase := .ended }

/-- What a step does to the reapers of a registry. -/
inductive Tends (system : RegistrySystem κ α) (now : Instant) (move : Move κ α)
    (after : RegistrySystem κ α) : Prop where
  | modifies (id : Nat) (change : Reaper → Reaper)
      (reapers : after.reapers = system.reapers.modify id change)
      (becomes : ∀ reaper, system.reapers[id]? = some reaper →
        reaper.Becomes system now move id (change reaper))
  | spawns (interval : Duration)
      (reapers : after.reapers = system.reapers ++ [{ interval := interval }])

section Owners

variable {system : RegistrySystem κ α} {party : Party} {stepped : Stepped κ α}

/-- A registry is gone if it has no owner and no reaper is in the middle of a sweep. -/
theorem isOwned_eq_false_iff :
    system.isOwned = false ↔
      system.owners = 0 ∧ ∀ id : Nat, system.reapers[id]?.any Reaper.owns = false := by
  rw [isOwned, Bool.or_eq_false_iff, decide_eq_false_iff_not, Nat.not_lt, Nat.le_zero, List.any_eq_false]
  refine and_congr_right fun _ => ⟨fun none id => ?_, fun none reaper listed => ?_⟩
  · cases listed : system.reapers[id]? with
    | none => rfl
    | some reaper => exact eq_false_of_ne_true (none reaper (List.mem_of_getElem? listed))
  · rcases List.mem_iff_getElem?.mp listed with ⟨id, found⟩
    have rests := none id
    rw [found, Option.any_some] at rests
    exact ne_true_of_eq_false rests

theorem owners_proceed [DecidableEq κ] (proceeded : system.proceed party = some stepped) :
    stepped.state.owners = system.owners := by
  rcases exists_advance proceeded with ⟨_, _, _, advance⟩
  cases advance <;> rfl

theorem owners_reap [DecidableEq κ] {now : Instant} {id : Nat}
    (reaped : system.reap now id = some stepped) : stepped.state.owners = system.owners := by
  rcases reap_eq_some_iff.mp reaped with ⟨_, _, wake⟩
  cases wake with
  | start | sweep | ends => rfl
  | purge _ proceeded => exact owners_proceed proceeded
  | rest _ proceeded =>
      have still := owners_proceed proceeded
      exact still

end Owners

section Performing

variable [DecidableEq κ] {held : List (Reference κ)} {system : RegistrySystem κ α} {now : Instant}
  {move : Move κ α} {stepped : Stepped κ α} {id : Nat} {reaper : Reaper}

omit [DecidableEq κ] in
theorem Tends.keeps {after : RegistrySystem κ α} (same : after.reapers = system.reapers) :
    Tends system now move after := by
  refine .modifies 0 id ?_ fun _ _ => .stays
  rw [same, List.modify_id]

omit [DecidableEq κ] in
theorem tends_of_begin (thread : ThreadId) (operation : Operation κ α) :
    Tends system now (.begin thread operation) (system.begin (.caller thread) operation).state := by
  cases operation with
  | stopReaper id => exact .modifies id _ rfl fun _ _ => .stops thread rfl
  | spawnReaper config refusal =>
      simp only [begin]
      split
      · exact .keeps rfl
      · exact .keeps rfl
      · exact .spawns config.reapInterval rfl
  | built | failed | refer =>
      simp only [begin]
      split <;> exact .keeps rfl
  | _ => exact .keeps rfl

theorem tends_of_reap (reaped : system.reap now id = some stepped) :
    Tends system now (.reap id) stepped.state := by
  rcases reap_eq_some_iff.mp reaped with ⟨reaper, listed, wake⟩
  have alone {after : RegistrySystem κ α} {change : Reaper → Reaper}
      (reapers : after.reapers = system.reapers.modify id change)
      (becomes : reaper.Becomes system now (.reap id) id (change reaper)) :
      Tends system now (.reap id) after := by
    refine .modifies id change reapers fun other found => ?_
    obtain rfl := Option.some.inj (listed.symm.trans found)
    exact becomes
  cases wake with
  | start starts => exact alone rfl (.rests _ rfl (Or.inl starts))
  | sweep waits unstopped late owned => exact alone rfl (.sweeps rfl waits unstopped late owned)
  | ends waits reason => exact alone rfl (.ends rfl waits reason)
  | purge purges proceeded => exact .keeps (proceed_performs proceeded).reapers
  | rest purges proceeded =>
      have still := (proceed_performs proceeded).reapers
      exact alone (congrArg (List.modify · id _) still) (.rests _ rfl (Or.inr purges))

theorem tends_of_perform (performed : system.perform held now move = some stepped) :
    Tends system now move stepped.state := by
  cases move with
  | begin thread operation =>
      simp only [perform, Option.ite_none_right_eq_some, Option.some.injEq] at performed
      rcases performed with ⟨_, rfl⟩
      exact tends_of_begin thread operation
  | proceed thread => exact .keeps (proceed_performs performed).reapers
  | reap id => exact tends_of_reap performed

theorem becomes_of_perform (performed : system.perform held now move = some stepped)
    (listed : system.reapers[id]? = some reaper) :
    ∃ next, stepped.state.reapers[id]? = some next ∧ reaper.Becomes system now move id next := by
  cases tends_of_perform performed with
  | modifies other change reapers becomes =>
      rw [reapers, List.getElem?_modify, listed]
      by_cases own : other = id
      · subst own
        exact ⟨change reaper, by simp, becomes reaper listed⟩
      · exact ⟨reaper, by simp [own], .stays⟩
  | spawns interval reapers =>
      refine ⟨reaper, ?_, .stays⟩
      rw [reapers, List.getElem?_append_left (List.getElem?_eq_some_iff.mp listed).1]
      exact listed

/-- A reaper that comes with a step is new. -/
theorem spawned_of_perform (performed : system.perform held now move = some stepped)
    (unknown : system.reapers[id]? = none) (listed : stepped.state.reapers[id]? = some reaper) :
    reaper.phase = .starting ∧ reaper.stopped = false := by
  cases tends_of_perform performed with
  | modifies other change reapers becomes =>
      rw [reapers, List.getElem?_modify, unknown] at listed
      split at listed <;> cases listed
  | spawns interval reapers =>
      rw [reapers, List.getElem?_append_right (List.getElem?_eq_none_iff.mp unknown)] at listed
      cases List.mem_singleton.mp (List.mem_of_getElem? listed)
      exact ⟨rfl, rfl⟩

/-- Nobody becomes an owner of a registry that has none. -/
theorem owners_of_perform (performed : system.perform held now move = some stepped)
    (none : system.owners = 0) (clones : ∀ thread, move = .begin thread .own → 0 < system.owners) :
    stepped.state.owners = 0 := by
  cases move with
  | begin thread operation =>
      simp only [perform, Option.ite_none_right_eq_some, Option.some.injEq] at performed
      rcases performed with ⟨_, rfl⟩
      cases operation with
      | own => exact absurd none (Nat.ne_of_gt (clones thread rfl))
      | disown =>
          simp only [begin, answer, none]
      | spawnReaper | built | failed | refer =>
          simp only [begin]
          split <;> exact none
      | _ => exact none
  | proceed thread => exact (owners_proceed performed).trans none
  | reap id => exact (owners_reap performed).trans none

/-- A sweep begins when an interval is over, if the registry is still there. -/
theorem sweeps_of_perform (performed : system.perform held now move = some stepped)
    (rests : system.reapers[id]?.any Reaper.owns = false)
    (owns : stepped.state.reapers[id]?.any Reaper.owns = true) :
    move = .reap id ∧ system.isOwned = true ∧ ∃ reaper deadline, system.reapers[id]? = some reaper ∧
      reaper.phase = .waiting deadline ∧ reaper.stopped = false ∧ deadline ≤ now := by
  rcases (Option.any_eq_true _ _).mp owns with ⟨next, found, owns⟩
  cases listed : system.reapers[id]? with
  | none =>
      have starts := (spawned_of_perform performed listed found).1
      simp [Reaper.owns, starts] at owns
  | some reaper =>
      rw [listed, Option.any_some] at rests
      rcases becomes_of_perform performed listed with ⟨other, same, becomes⟩
      obtain rfl := Option.some.inj (found.symm.trans same)
      cases becomes with
      | stays => exact absurd owns (ne_true_of_eq_false rests)
      | stops => exact absurd owns (ne_true_of_eq_false rests)
      | rests => cases owns
      | sweeps wakes waits unstopped late owned =>
          exact ⟨wakes, owned, reaper, _, rfl, waits, unstopped, late⟩
      | ends => cases owns

end Performing

namespace Reaper.Becomes

variable {system : RegistrySystem κ α} {now : Instant} {move : Move κ α} {id : Nat}
  {reaper next : Reaper}

theorem stopped (becomes : reaper.Becomes system now move id next) (stopped : next.stopped = true) :
    reaper.stopped = true ∨ ∃ thread, move = .begin thread (.stopReaper id) := by
  cases becomes with
  | stops thread begins => exact Or.inr ⟨thread, begins⟩
  | _ => exact Or.inl stopped

theorem ended (becomes : reaper.Becomes system now move id next) (ended : reaper.phase = .ended) :
    next.phase = .ended := by
  cases becomes with
  | stays | stops => exact ended
  | rests deadline wakes busy =>
      rcases busy with starting | purging
      · cases ended.symm.trans starting
      · cases ended.symm.trans purging
  | sweeps wakes waits => cases ended.symm.trans waits
  | ends => rfl

end Reaper.Becomes

section Sweeping

variable {system : RegistrySystem κ α} {id : Nat}

end Sweeping

section Histories

variable [DecidableEq κ] {events earlier later : List (Event κ α)} {event : Event κ α}
  {held : List (Reference κ)} {system : RegistrySystem κ α} {id : Nat}

/-- What is kept by every later event still holds. -/
theorem History.stays (history : History (earlier ++ event :: later) held system)
    (kept : RegistrySystem κ α → Prop) (start : kept event.after)
    (each : ∀ next ∈ later, next.Happens → kept next.before → kept next.after) :
    kept system ∧ ∀ next ∈ later, kept next.before ∧ kept next.after := by
  induction later using List.reverseRecOn generalizing held system with
  | nil =>
      rcases history.last with ⟨_, _, rfl⟩
      exact ⟨start, by rintro _ ⟨⟩⟩
  | append_singleton rest last ih =>
      rw [← List.cons_append, ← List.append_assoc] at history
      rcases history.last with ⟨past, happens, rfl⟩
      rcases ih past fun next mem => each next (List.mem_append_left _ mem) with ⟨before, former⟩
      have after := each last (List.mem_append_right _ List.mem_cons_self) happens before
      refine ⟨after, fun next mem => ?_⟩
      rcases List.mem_append.mp mem with mem | mem
      · exact former next mem
      · rw [List.mem_singleton.mp mem]
        exact ⟨before, after⟩

theorem Event.Happens.hasEnded (happens : event.Happens) (ended : event.before.HasEnded id) :
    event.after.HasEnded id := by
  rcases happens.performed with ⟨stepped, performed, after, _⟩
  rcases ended with ⟨reaper, listed, ended⟩
  rcases becomes_of_perform performed listed with ⟨next, found, becomes⟩
  exact ⟨next, after ▸ found, becomes.ended ended⟩

/-- Once a registry is gone, it stays so. -/
theorem Event.Happens.gone (happens : event.Happens) (clones : event.Clones)
    (gone : event.before.isOwned = false) : event.after.isOwned = false := by
  rcases happens.performed with ⟨stepped, performed, after, _⟩
  rw [isOwned_eq_false_iff] at gone
  rw [after, isOwned_eq_false_iff]
  refine ⟨owners_of_perform performed gone.1 clones, fun id => eq_false_of_ne_true fun owns => ?_⟩
  have owned := (sweeps_of_perform performed (gone.2 id) owns).2.1
  rw [isOwned_eq_false_iff.mpr gone] at owned
  cases owned

/-- The past of an event in the midst of others. -/
theorem History.past (history : History (earlier ++ event :: later) held system) :
    History earlier event.held event.before ∧ event.Happens := by
  rw [← List.singleton_append, ← List.append_assoc] at history
  rcases history.front with ⟨held, system, history⟩
  exact ⟨history.last.1, history.last.2.1⟩

theorem Event.Happens.reaping (happens : event.Happens) : Reaping event.before ∧ Reaping event.after := by
  rcases happens.performed with ⟨stepped, performed, after, _⟩
  have reaping := (invariant_of_reachable happens.reachable).reaping
  exact ⟨reaping, after ▸ reaping_of_perform reaping performed⟩

theorem Event.Happens.purges (happens : event.Happens) : event.Purges := by
  rcases event with ⟨held, before, now, move, after, reply⟩
  rcases happens with ⟨reachable, stepped, performed, rfl, rfl⟩
  exact purges_of_perform reachable performed

/-- A thread waits for a reaper until the reaper has ended. -/
theorem Event.Happens.joins (happens : event.Happens) (joins : event.Joins id)
    (known : id < event.before.reapers.length) : event.before.HasEnded id := by
  rcases joins with ⟨thread, proceeds, doing⟩
  rcases happens.performed with ⟨stepped, performed, _⟩
  rw [proceeds] at performed
  cases (proceed_eq_some_iff doing).mp performed with
  | joined ended =>
      have listed := List.getElem?_eq_getElem known
      exact ⟨_, listed, by simpa [listed] using ended⟩

end Histories

end Coordination.RegistrySystem
