import Coordination.Proofs.Registry.Identity
import Mathlib.Algebra.GroupWithZero.Nat
import Mathlib.Data.List.Induction

/-!
# Pasts of a registry

Every step of a schedule is remembered as an event with the states before and after it. What comes into
the map with an event and what leaves it is read off the two states; what a purge returns is what its
last step returns, also where it is the sweep of a reaper and nobody gets the number.
-/

namespace Coordination.RegistrySystem

variable {κ α : Type}

/-- A step that was made. -/
structure Event (κ α : Type) where
  /-- The references that are held before the step. -/
  held : List (Reference κ)
  before : RegistrySystem κ α
  now : Instant
  move : Move κ α
  after : RegistrySystem κ α
  reply : Option Reply

/-- The party that makes a move. -/
def Move.party : Move κ α → Party
  | .begin thread _ | .proceed thread => .caller thread
  | .reap id => .agent id

/-- What a party goes on with in a move, unless it begins an operation. -/
def pursued? (system : RegistrySystem κ α) : Move κ α → Option (Activity κ)
  | .begin _ _ => none
  | .proceed thread => system.activity? (.caller thread)
  | .reap id => system.activity? (.agent id)

/-- An activity of a purge or of the sweep of a reaper. To measure the map is one when it is for the
log. -/
def Activity.sweeps : Activity κ → Bool
  | .approaching _ _ | .sweeping _ _ _ | .unlinking _ _ _ _ | .measuring _ _ (.log _) => true
  | _ => false

/-- The number of entries that a purge has unlinked and not yet returned. -/
def Activity.unreported : Activity κ → Nat
  | .approaching _ removed | .sweeping _ _ removed | .measuring _ _ (.log removed) => removed
  -- The entry of a slot that is already retired has been counted, but it is still in the map.
  | .unlinking _ _ _ removed => removed - 1
  | _ => 0

def unreported (stack : List (Activity κ)) : Nat := (stack.map Activity.unreported).sum

theorem Activity.unreported_eq_zero {activity : Activity κ} (other : activity.sweeps = false) :
    activity.unreported = 0 := by
  cases activity with
  | measuring shard count wanted => cases wanted <;> first | rfl | cases other
  | approaching | sweeping | unlinking => cases other
  | _ => rfl

theorem unreported_eq_zero {stack : List (Activity κ)}
    (others : ∀ activity ∈ stack, activity.sweeps = false) : unreported stack = 0 := by
  refine List.sum_eq_zero_iff_forall_eq_nat.mpr fun number mem => ?_
  rcases List.mem_map.mp mem with ⟨activity, listed, rfl⟩
  exact activity.unreported_eq_zero (others activity listed)

/-- The result of a purge that ends with a reply. -/
def Activity.result? (activity : Activity κ) : Option Reply → Option Nat
  | some (.count number) => if activity.sweeps then some number else none
  | _ => none

variable [DecidableEq κ]

/-- The result of a purge that ends with an event. -/
def Event.result? (event : Event κ α) : Option Nat :=
  (event.before.pursued? event.move).bind fun activity =>
    activity.result? ((event.before.proceed event.move.party).bind (·.reply))

/-- The entries that come into the map. -/
def Event.inserted (event : Event κ α) : List (κ × SlotId) :=
  event.after.registry.entries.filter (· ∉ event.before.registry.entries)

/-- The entries that leave the map. -/
def Event.removed (event : Event κ α) : List (κ × SlotId) :=
  event.before.registry.entries.filter (· ∉ event.after.registry.entries)

def inserted (events : List (Event κ α)) : List (κ × SlotId) := events.flatMap Event.inserted

def removed (events : List (Event κ α)) : List (κ × SlotId) := events.flatMap Event.removed

/-- The results of all purges. -/
def results (events : List (Event κ α)) : List Nat := events.filterMap Event.result?

/-- The steps of one party. -/
def stepsOf (party : Party) (events : List (Event κ α)) : List (Event κ α) :=
  events.filter (·.move.party = party)

/-- The pasts of a registry since it was new, with their events in order and the references that are
held in the end. -/
inductive History : List (Event κ α) → List (Reference κ) → RegistrySystem κ α → Prop where
  | new (shards : Nat) (shardOf : κ → Nat) : History [] [] (new shards shardOf)
  | step {events : List (Event κ α)} {held : List (Reference κ)} {system : RegistrySystem κ α}
      {now : Instant} {move : Move κ α} {stepped : Stepped κ α} (history : History events held system)
      (performed : system.perform held now move = some stepped) :
      History (events ++ [⟨held, system, now, move, stepped.state, stepped.reply⟩])
        (system.record held stepped.reply move) stepped.state

theorem History.reachable {events : List (Event κ α)} {held : List (Reference κ)}
    {system : RegistrySystem κ α} (history : History events held system) : Reachable held system := by
  induction history with
  | new shards shardOf => exact .new shards shardOf
  | step _ performed ih => exact ih.step performed

theorem History.invariant {events : List (Event κ α)} {held : List (Reference κ)}
    {system : RegistrySystem κ α} (history : History events held system) : Invariant held system :=
  invariant_of_reachable history.reachable

/-- What every step does is true of every event of a history. -/
theorem History.each {holds : Event κ α → Prop} {events : List (Event κ α)}
    {held : List (Reference κ)} {system : RegistrySystem κ α} (history : History events held system)
    (each : ∀ {events : List (Event κ α)} {held : List (Reference κ)} {system : RegistrySystem κ α}
      {now : Instant} {move : Move κ α} {stepped : Stepped κ α}, History events held system →
        system.perform held now move = some stepped →
          holds ⟨held, system, now, move, stepped.state, stepped.reply⟩) :
    ∀ event ∈ events, holds event := by
  induction history with
  | new => rintro event ⟨⟩
  | step past performed ih =>
      intro event mem
      rcases List.mem_append.mp mem with former | last
      · exact ih event former
      · cases List.mem_singleton.mp last
        exact each past performed

/-- An event is a step from a reachable state. -/
structure Event.Happens (event : Event κ α) : Prop where
  reachable : Reachable event.held event.before
  performed : ∃ stepped, event.before.perform event.held event.now event.move = some stepped ∧
    event.after = stepped.state ∧ event.reply = stepped.reply

/-- The last event of a history is a step from the state to which the others lead. -/
theorem History.last {events : List (Event κ α)} {event : Event κ α} {held : List (Reference κ)}
    {system : RegistrySystem κ α} (history : History (events ++ [event]) held system) :
    History events event.held event.before ∧ event.Happens ∧ event.after = system := by
  generalize whole : events ++ [event] = all at history
  cases history with
  | new => simp at whole
  | step past performed =>
      rcases List.append_inj' whole rfl with ⟨rfl, same⟩
      cases List.singleton_inj.mp same
      exact ⟨past, ⟨past.reachable, _, performed, rfl, rfl⟩, rfl⟩

theorem History.front {events later : List (Event κ α)} {held : List (Reference κ)}
    {system : RegistrySystem κ α} (history : History (events ++ later) held system) :
    ∃ held system, History events held system := by
  induction later using List.reverseRecOn generalizing held system with
  | nil => exact ⟨held, system, by simpa using history⟩
  | append_singleton rest event ih =>
      rw [← List.append_assoc] at history
      exact ih history.last.1

theorem History.happens {events : List (Event κ α)} {held : List (Reference κ)}
    {system : RegistrySystem κ α} (history : History events held system) :
    ∀ event ∈ events, event.Happens :=
  history.each fun past performed => ⟨past.reachable, _, performed, rfl, rfl⟩

/-- The events of a list of moves. A move that cannot be made is left out. -/
def trace (held : List (Reference κ)) (system : RegistrySystem κ α) :
    List (Instant × Move κ α) → List (Event κ α)
  | [] => []
  | (now, move) :: rest =>
      match system.perform held now move with
      | some stepped =>
          ⟨held, system, now, move, stepped.state, stepped.reply⟩
            :: trace (system.record held stepped.reply move) stepped.state rest
      | none => trace held system rest

theorem History.follow {events : List (Event κ α)} {held : List (Reference κ)}
    {system : RegistrySystem κ α} (history : History events held system)
    (moves : List (Instant × Move κ α)) :
    History (events ++ trace held system moves) (follow held system moves).1
      (RegistrySystem.follow held system moves).2 := by
  induction moves generalizing events held system with
  | nil => simpa [trace, RegistrySystem.follow] using history
  | cons move rest ih =>
      simp only [trace, RegistrySystem.follow]
      cases performed : system.perform held move.1 move.2 with
      | some stepped => simpa using ih (history.step performed)
      | none => exact ih history

theorem history_follow (shards : Nat) (shardOf : κ → Nat) (moves : List (Instant × Move κ α)) :
    History (trace [] (new shards shardOf) moves) (follow [] (new shards shardOf) moves).1
      (follow [] (new shards shardOf) moves).2 := by
  simpa using (History.new shards shardOf).follow moves

section Performing

variable {held : List (Reference κ)} {system changed : RegistrySystem κ α} {now : Instant}
  {move : Move κ α} {stepped : Stepped κ α} {party : Party}

omit [DecidableEq κ] in
theorem stack_congr (same : changed.activities = system.activities) (other : Party) :
    changed.stack other = system.stack other := by
  rw [stack, same, stack]

section Stacks

variable {activity : Activity κ} {rest : List (Activity κ)}

omit [DecidableEq κ] in
theorem stack_turnTo_of_doing (doing : system.stack party = activity :: rest) (next : Activity κ)
    (same : changed.activities = system.activities) :
    (changed.turnTo party next).stack party = next :: rest := by
  rw [stack_turnTo, if_pos rfl, stack_congr same, doing, List.tail_cons]

omit [DecidableEq κ] in
theorem stack_finish_of_doing (doing : system.stack party = activity :: rest) (reply : Reply)
    (log : List Log.Entry) (same : changed.activities = system.activities) :
    (changed.finish party reply log).state.stack party = rest := by
  rw [stack_finish, if_pos rfl, stack_congr same, doing, List.tail_cons]

end Stacks

/-- What a move leads to. The party goes on with what it is doing, or it comes to something new, which
leaves the map alone. -/
inductive Leads (system : RegistrySystem κ α) (move : Move κ α) (stepped : Stepped κ α) : Prop where
  | proceeds {inner : Stepped κ α} (proceeded : system.proceed move.party = some inner)
      (pursues : system.pursued? move = system.activity? move.party)
      (registry : stepped.state.registry = inner.state.registry)
      (frames : ∀ party, stepped.state.stack party = inner.state.stack party)
  | comes (fresh : system.pursued? move = none)
      (entries : stepped.state.registry.entries = system.registry.entries)
      (reports : unreported (stepped.state.stack move.party) = unreported (system.stack move.party))
      (others : ∀ other, move.party ≠ other → stepped.state.stack other = system.stack other)

namespace Leads

theorem rest (fresh : system.pursued? move = none)
    (same : changed.activities = system.activities)
    (entries : changed.registry.entries = system.registry.entries) {reply : Option Reply}
    {log : List Log.Entry} : Leads system move { state := changed, reply, log } :=
  .comes fresh entries (by rw [stack_congr same]) fun other _ => stack_congr same other

/-- A party begins something that has not removed anything yet. -/
theorem push (fresh : system.pursued? move = none) (own : move.party = party)
    {activity : Activity κ} (same : changed.activities = system.activities)
    (entries : changed.registry.entries = system.registry.entries)
    (silent : activity.unreported = 0) :
    Leads system move { state := changed.push party activity } := by
  subst own
  refine .comes fresh entries ?_ fun other apart => ?_
  · rw [stack_push, if_pos rfl, stack_congr same, unreported, List.map_cons, List.sum_cons, silent,
      Nat.zero_add, ← unreported]
  · rw [stack_push, if_neg apart, stack_congr same]

/-- A party has built an object, or has failed to. -/
theorem finish (fresh : system.pursued? move = none) (own : move.party = party) {key : κ}
    {slot : SlotId} (doing : system.activity? party = some (.building key slot))
    (same : changed.activities = system.activities)
    (entries : changed.registry.entries = system.registry.entries) {reply : Reply} :
    Leads system move (changed.finish party reply []) := by
  subst own
  refine .comes fresh entries ?_ fun other apart => ?_
  · rcases List.head?_eq_some_iff.mp doing with ⟨rest, whole⟩
    have stacked : system.stack move.party = .building key slot :: rest := whole
    rw [stack_finish_of_doing stacked reply [] same, stacked]
    simp [unreported, Activity.unreported]
  · rw [stack_finish, if_neg apart, stack_congr same]

end Leads

theorem leads_of_begin {thread : ThreadId} {operation : Operation κ α} :
    Leads system (.begin thread operation) (system.begin (.caller thread) operation) := by
  have fresh : system.pursued? (.begin thread operation) = none := rfl
  cases operation with
  | get key => exact .push fresh rfl rfl rfl rfl
  | purge => exact .push fresh rfl rfl rfl rfl
  | size => exact .push fresh rfl rfl rfl rfl
  | liveCount => exact .push fresh rfl rfl rfl rfl
  | stopReaper id => exact .push fresh rfl rfl rfl rfl
  | release | own | disown | isReaperRunning => refine .rest fresh ?_ ?_ <;> rfl
  | refer object =>
      simp only [begin]
      split <;> refine .rest fresh ?_ ?_ <;> rfl
  | spawnReaper config refusal =>
      simp only [begin]
      split <;> refine .rest fresh ?_ ?_ <;> rfl
  | built content =>
      simp only [begin]
      split
      · rename_i key slot doing
        refine .finish fresh rfl doing ?_ ?_ <;> rfl
      · refine .rest fresh ?_ ?_ <;> rfl
  | failed =>
      simp only [begin]
      split
      · rename_i key slot doing
        refine .finish fresh rfl doing ?_ ?_ <;> rfl
      · refine .rest fresh ?_ ?_ <;> rfl

theorem leads_of_reap {id : Nat} (reaping : Reaping system)
    (performed : system.reap now id = some stepped) : Leads system (.reap id) stepped := by
  rcases reap_eq_some_iff.mp performed with ⟨reaper, listed, wake⟩
  have fresh (rests : reaper.phase ≠ .purging) : system.pursued? (.reap id) = none :=
    congrArg List.head? (reaping.resting listed rests)
  cases wake with
  | start starts => refine .rest (fresh (by simp [starts])) ?_ ?_ <;> rfl
  | ends waits => refine .rest (fresh (by simp [waits])) ?_ ?_ <;> rfl
  | sweep waits => exact .push (fresh (by simp [waits])) rfl rfl rfl rfl
  | purge _ proceeded | rest _ proceeded => exact .proceeds proceeded rfl rfl fun _ => rfl

theorem perform_leads (reaping : Reaping system)
    (performed : system.perform held now move = some stepped) : Leads system move stepped := by
  cases move with
  | begin thread operation =>
      simp only [perform] at performed
      split at performed
      · obtain rfl := Option.some.inj performed
        exact leads_of_begin
      · cases performed
  | proceed thread => exact .proceeds performed rfl rfl fun _ => rfl
  | reap id => exact leads_of_reap reaping performed

/-- A move changes what its own party is in the middle of, and nothing of the others. -/
theorem Leads.stack_of_ne (leads : Leads system move stepped) {other : Party}
    (apart : move.party ≠ other) : stepped.state.stack other = system.stack other := by
  cases leads with
  | proceeds proceeded pursues registry frames =>
      rw [frames]
      exact (proceed_performs proceeded).changes.others other apart
  | comes fresh entries reports others => exact others other apart

end Performing

end Coordination.RegistrySystem
