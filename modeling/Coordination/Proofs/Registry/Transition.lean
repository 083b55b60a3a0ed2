import Coordination.Proofs.Registry.Steps

/-!
# What a step of a registry can do

A party changes its innermost activity and perhaps the map, a slot, a latch or an object with it
(`Change`). Apart from that, references are cloned and dropped. Every step of a schedule does one of
these (`perform_transition`), once it is known that a reaper does nothing but purge (`Reaping`).
-/

namespace Coordination.RegistrySystem

variable {κ α : Type}

/-- An activity that relies on nothing in the map. -/
def Activity.isLoose : Activity κ → Bool
  | .entering _ _ | .building _ _ | .sweeping _ _ _ | .unlinking _ _ _ _ => false
  | _ => true

/-- The shard whose latch a party holds. -/
def Activity.latch? : Activity κ → Option Nat
  | .sweeping shard _ _ | .unlinking _ shard _ _ | .counting shard _ _ => some shard
  | _ => none

/-- Whether a party gets an object. -/
def Activity.gets : Activity κ → Bool
  | .lookingUp _ | .inserting _ | .entering _ _ | .building _ _ => true
  | _ => false

/-- An activity of a purge. -/
def Activity.isPurge : Activity κ → Bool
  | .approaching _ _ | .sweeping _ _ _ | .unlinking _ _ _ _ | .measuring _ _ _ => true
  | _ => false

/-- What a party does to a registry while its activities change, with the reference that it gets. -/
inductive Change [DecidableEq κ] (registry : Registry κ α) (party : Party) :
    List (Activity κ) → Registry κ α → List (Activity κ) → Option (Reference κ) → Prop where
  | begin {activity : Activity κ} {stack : List (Activity κ)}
      (ready : stack.head?.all Activity.isBuilding = true) (loose : activity.isLoose = true)
      (outside : activity.latch? = none) :
      Change registry party stack registry (activity :: stack) none
  | turn {activity next : Activity κ} (stack : List (Activity κ)) (loose : activity.isLoose = true)
      (looseNext : next.isLoose = true) (stays : next.latch? = activity.latch?)
      (same : next.gets = activity.gets) :
      Change registry party (activity :: stack) registry (next :: stack) none
  | finish {activity : Activity κ} (stack : List (Activity κ)) (loose : activity.isLoose = true)
      (outside : activity.latch? = none) :
      Change registry party (activity :: stack) registry stack none
  /-- A reader comes into a shard, or goes out. -/
  | pass {activity next : Activity κ} (stack : List (Activity κ)) (shard : Nat)
      (change : Latch → Latch) (loose : activity.isLoose = true) (looseNext : next.isLoose = true)
      (keeps : ∀ owner, change (.exclusive owner) = .exclusive owner)
      (passes : (registry.latches.get shard).admitsReader = true ∧ activity.latch? = none ∧
          next.latch? = some shard ∧ change = (·.enter party) ∨
        activity.latch? = some shard ∧ change = (·.leave party))
      (other : next.gets = false) :
      Change registry party (activity :: stack) (registry.modifyLatch shard change)
        (next :: stack) none
  | publish (key : κ) (slot : SlotId) (content : α) (stack : List (Activity κ)) :
      Change registry party (.building key slot :: stack) (registry.publish key slot content).1
        stack (some ⟨key, (registry.publish key slot content).2⟩)
  | fail (key : κ) (slot : SlotId) (stack : List (Activity κ)) :
      Change registry party (.building key slot :: stack)
        (registry.modifySlot slot fun slot => { slot with holder := none }) stack none
  | find {key : κ} {slot : SlotId} (stack : List (Activity κ))
      (found : registry.find key = some slot) :
      Change registry party (.lookingUp key :: stack) registry (.entering key slot :: stack) none
  | insert {key : κ} (stack : List (Activity κ))
      (free : (registry.latchOf key).admitsWriter = true) :
      Change registry party (.inserting key :: stack) (registry.insert key).1
        (.entering key (registry.insert key).2 :: stack) none
  | retry (key : κ) {slot : SlotId} (stack : List (Activity κ))
      (retired : (registry.slots.get slot).retired = true) :
      Change registry party (.entering key slot :: stack) registry (.lookingUp key :: stack) none
  | join (key : κ) {slot : SlotId} {object : ObjectId} (stack : List (Activity κ))
      (usable : (registry.slots.get slot).retired = false)
      (alive : registry.live? (registry.slots.get slot) = some object) :
      Change registry party (.entering key slot :: stack) (registry.refer object) stack
        (some ⟨key, object⟩)
  | lock (key : κ) {slot : SlotId} (stack : List (Activity κ))
      (unlocked : (registry.slots.get slot).holder = none)
      (usable : (registry.slots.get slot).retired = false)
      (dead : registry.live? (registry.slots.get slot) = none) :
      Change registry party (.entering key slot :: stack)
        (registry.modifySlot slot fun slot => { slot with holder := some party })
        (.building key slot :: stack) none
  | occupy {shard : Nat} (removed : Nat) (stack : List (Activity κ))
      (free : (registry.latches.get shard).admitsWriter = true) :
      Change registry party (.approaching shard removed :: stack)
        (registry.modifyLatch shard fun _ => .exclusive party)
        (.sweeping shard (registry.shard shard) removed :: stack) none
  | skip (shard : Nat) (entry : κ × SlotId) (left : List (κ × SlotId)) (removed : Nat)
      (stack : List (Activity κ)) :
      Change registry party (.sweeping shard (entry :: left) removed :: stack) registry
        (.sweeping shard left removed :: stack) none
  | retire (shard : Nat) (key : κ) {slot : SlotId} (left : List (κ × SlotId)) (removed : Nat)
      (stack : List (Activity κ)) (dead : registry.countsAsLive slot = false) :
      Change registry party (.sweeping shard ((key, slot) :: left) removed :: stack)
        (registry.modifySlot slot fun slot => { slot with retired := true })
        (.unlinking key shard left (removed + 1) :: stack) none
  | unlink (key : κ) (shard : Nat) (left : List (κ × SlotId)) (removed : Nat)
      (stack : List (Activity κ)) :
      Change registry party (.unlinking key shard left removed :: stack) (registry.unlink key)
        (.sweeping shard left removed :: stack) none
  | vacate (shard removed : Nat) (stack : List (Activity κ)) :
      Change registry party (.sweeping shard [] removed :: stack)
        (registry.modifyLatch shard fun _ => .free) (.approaching (shard + 1) removed :: stack) none

/-- A reaper does nothing but purge. -/
def Reaping (system : RegistrySystem κ α) : Prop :=
  ∀ id, if system.reapers[id]?.any Reaper.owns then
      ∃ activity, system.stack (.agent id) = [activity] ∧ activity.isPurge = true
    else system.stack (.agent id) = []

section Stacks

variable (system : RegistrySystem κ α) (party other : Party)

theorem stack_modifyStack (change : List (Activity κ) → List (Activity κ)) :
    stack { system with activities := system.activities.modify party change } other
      = if party = other then change (system.stack party) else system.stack other := by
  simp only [stack, Table.modify, Table.get_set]

theorem stack_turnTo (activity : Activity κ) :
    (system.turnTo party activity).stack other
      = if party = other then activity :: (system.stack party).tail else system.stack other :=
  system.stack_modifyStack party other _

theorem stack_push (activity : Activity κ) :
    (system.push party activity).stack other
      = if party = other then activity :: system.stack party else system.stack other :=
  system.stack_modifyStack party other _

theorem stack_finish (reply : Reply) (log : List Log.Entry) :
    (system.finish party reply log).state.stack other
      = if party = other then (system.stack party).tail else system.stack other :=
  system.stack_modifyStack party other _

theorem exists_building {system : RegistrySystem κ α} {party : Party}
    (building : (system.stack party).head?.any Activity.isBuilding = true) :
    ∃ key slot rest, system.stack party = .building key slot :: rest := by
  cases doing : system.stack party with
  | nil => simp [doing] at building
  | cons activity rest =>
      cases activity with
      | building key slot => exact ⟨key, slot, rest, rfl⟩
      | _ => simp [doing, Activity.isBuilding] at building

theorem gained_of_purge {system : RegistrySystem κ α} {party : Party} {reply : Option Reply}
    (purges : ∃ activity, system.stack party = [activity] ∧ activity.isPurge = true) :
    system.gained party reply = none := by
  rcases purges with ⟨activity, doing, purge⟩
  unfold gained
  split
  · rw [doing]
    cases activity <;> first | rfl | cases purge
  · rfl

theorem owns_modifyReaper (id other : Nat) (change : Reaper → Reaper) :
    (system.modifyReaper id change).reapers[other]?.any Reaper.owns
      = if id = other then system.reapers[other]?.any (fun reaper => (change reaper).owns)
        else system.reapers[other]?.any Reaper.owns := by
  simp only [modifyReaper, List.getElem?_modify]
  split
  · cases system.reapers[other]? <;> rfl
  · cases system.reapers[other]? <;> rfl

end Stacks

section Reapers

variable {system : RegistrySystem κ α}

/-- A reaper that purges is in the middle of nothing else. -/
theorem Reaping.purging {id : Nat} {reaper : Reaper} (reaping : Reaping system)
    (listed : system.reapers[id]? = some reaper) (purges : reaper.phase = .purging) :
    ∃ activity, system.stack (.agent id) = [activity] ∧ activity.isPurge = true := by
  have own := reaping id
  rw [listed, Option.any_some, Reaper.owns, purges] at own
  exact own

theorem Reaping.resting {id : Nat} {reaper : Reaper} (reaping : Reaping system)
    (listed : system.reapers[id]? = some reaper) (rests : reaper.phase ≠ .purging) :
    system.stack (.agent id) = [] := by
  have own := reaping id
  rw [listed, Option.any_some, Reaper.owns, decide_eq_false rests] at own
  exact own

theorem Reaping.keep {system after : RegistrySystem κ α} (reaping : Reaping system)
    (owns : ∀ id : Nat, after.reapers[id]?.any Reaper.owns = system.reapers[id]?.any Reaper.owns)
    (same : ∀ id, after.stack (.agent id) = system.stack (.agent id)) : Reaping after := by
  intro id
  rw [owns, same]
  exact reaping id

/-- A step of one reaper leaves the others alone. -/
theorem Reaping.keepOthers {system after : RegistrySystem κ α} (reaping : Reaping system) (id : Nat)
    (owns : ∀ other : Nat, id ≠ other →
      after.reapers[other]?.any Reaper.owns = system.reapers[other]?.any Reaper.owns)
    (same : ∀ other, id ≠ other → after.stack (.agent other) = system.stack (.agent other))
    (own : if after.reapers[id]?.any Reaper.owns then
        ∃ activity, after.stack (.agent id) = [activity] ∧ activity.isPurge = true
      else after.stack (.agent id) = []) : Reaping after := by
  intro other
  by_cases mine : id = other
  · exact mine ▸ own
  · rw [owns other mine, same other mine]
    exact reaping other

/-- A reaper that does not purge is idle. -/
theorem Reaping.settle {after : RegistrySystem κ α} (reaping : Reaping system) (id : Nat)
    (change : Reaper → Reaper) (reapers : after.reapers = (system.modifyReaper id change).reapers)
    (rests : ∀ reaper, (change reaper).owns = false)
    (same : ∀ other, id ≠ other → after.stack (.agent other) = system.stack (.agent other))
    (idle : after.stack (.agent id) = []) : Reaping after := by
  refine reaping.keepOthers id (fun other apart => ?_) same ?_
  · rw [reapers, owns_modifyReaper, if_neg apart]
  · rw [reapers, owns_modifyReaper, if_pos rfl]
    cases system.reapers[id]? <;> simp [rests, idle]

theorem reaping_begin (reaping : Reaping system) (thread : ThreadId) (operation : Operation κ α) :
    Reaping (system.begin (.caller thread) operation).state := by
  have foreign (id : Nat) : Party.caller thread ≠ .agent id := by rintro ⟨⟩
  have pushes {changed : RegistrySystem κ α} (activity : Activity κ) (kept : Reaping changed) :
      Reaping (changed.push (.caller thread) activity) := by
    refine kept.keep (fun _ => rfl) fun id => ?_
    rw [stack_push, if_neg (foreign id)]
  have finishes {changed : RegistrySystem κ α} (reply : Reply) (kept : Reaping changed) :
      Reaping (changed.finish (.caller thread) reply []).state := by
    refine kept.keep (fun _ => rfl) fun id => ?_
    rw [stack_finish, if_neg (foreign id)]
  cases operation with
  | get => exact pushes _ reaping
  | purge => exact pushes _ reaping
  | size => exact pushes _ reaping
  | liveCount => exact pushes _ reaping
  | stopReaper id =>
      refine pushes _ (reaping.keep (fun other => ?_) (fun _ => rfl))
      rw [owns_modifyReaper]
      split <;> rfl
  | own => exact reaping
  | disown => exact reaping
  | isReaperRunning => exact reaping
  | release => exact reaping
  | refer object =>
      simp only [begin]
      split <;> exact reaping
  | spawnReaper config refusal =>
      simp only [begin]
      split
      · exact reaping
      · exact reaping
      · refine reaping.keep (fun id => ?_) (fun _ => rfl)
        simp only [answer, List.getElem?_append, List.getElem?_singleton]
        split
        · rfl
        · rename_i long
          rw [List.getElem?_eq_none (by omega)]
          split <;> rfl
  | built content =>
      simp only [begin]
      split
      · exact finishes _ reaping
      · exact reaping
  | failed =>
      simp only [begin]
      split
      · exact finishes _ reaping
      · exact reaping

end Reapers

variable [DecidableEq κ]

/-- A party changes the registry and its own activities only. -/
structure Changes (system : RegistrySystem κ α) (party : Party) (after : RegistrySystem κ α)
    (gain : Option (Reference κ)) : Prop where
  change : Change system.registry party (system.stack party) after.registry (after.stack party) gain
  others : ∀ other, party ≠ other → after.stack other = system.stack other

/-- What a step of a schedule leads to, with the references that are held then. -/
inductive Transition (system : RegistrySystem κ α) (held : List (Reference κ)) :
    RegistrySystem κ α → List (Reference κ) → Prop where
  | change {after : RegistrySystem κ α} (party : Party) {gain : Option (Reference κ)}
      {next : List (Reference κ)} (changes : Changes system party after gain)
      (gains : next = held ++ gain.toList) : Transition system held after next
  | clone {after : RegistrySystem κ α} {row : Reference κ} (mem : row ∈ held)
      (refers : after.registry = system.registry.refer row.object)
      (same : ∀ party, after.stack party = system.stack party) :
      Transition system held after (held ++ [row])
  | drop {after : RegistrySystem κ α} {object : ObjectId} (listed : ∃ row ∈ held, row.object = object)
      (releases : after.registry = system.registry.release object)
      (same : ∀ party, after.stack party = system.stack party) :
      Transition system held after (held.eraseP (·.object = object))
  | rest {after : RegistrySystem κ α} (untouched : after.registry = system.registry)
      (same : ∀ party, after.stack party = system.stack party) : Transition system held after held

/-- A step of a party changes the registry and its own activities only. -/
structure Performs (system : RegistrySystem κ α) (party : Party) (stepped : Stepped κ α) : Prop where
  changes : Changes system party stepped.state (system.gained party stepped.reply)
  reapers : stepped.state.reapers = system.reapers

section Performing

variable {system : RegistrySystem κ α} {party : Party}

/-- A party begins something inside of what it is doing. -/
theorem Changes.push {activity : Activity κ} {changed : RegistrySystem κ α}
    (same : changed.activities = system.activities) (untouched : changed.registry = system.registry)
    (ready : (system.stack party).head?.all Activity.isBuilding = true)
    (loose : activity.isLoose = true) (outside : activity.latch? = none) :
    Changes system party (changed.push party activity) none := by
  have frames (other : Party) : changed.stack other = system.stack other := by
    rw [stack, same, stack]
  constructor
  · have still : (changed.push party activity).registry = system.registry := untouched
    rw [stack_push, if_pos rfl, frames, still]
    exact .begin ready loose outside
  · intro other apart
    rw [stack_push, if_neg apart, frames]

/-- A party turns from one activity to another one. -/
theorem Performs.turn {activity next : Activity κ} {rest : List (Activity κ)}
    {changed : RegistrySystem κ α} {reply : Option Reply} {log : List Log.Entry}
    (doing : system.stack party = activity :: rest)
    (same : changed.activities = system.activities ∧ changed.reapers = system.reapers)
    (silent : system.gained party reply = none)
    (change : Change system.registry party (activity :: rest) changed.registry (next :: rest) none) :
    Performs system party { state := changed.turnTo party next, reply, log } := by
  have frames (other : Party) : changed.stack other = system.stack other := by
    rw [stack, same.1, stack]
  refine ⟨⟨?_, ?_⟩, same.2⟩
  · rw [stack_turnTo, if_pos rfl, frames, doing, silent]
    exact change
  · intro other apart
    rw [stack_turnTo, if_neg apart, frames]

/-- A party ends its innermost activity. -/
theorem Performs.finish {activity : Activity κ} {rest : List (Activity κ)}
    {changed : RegistrySystem κ α} {reply : Reply} {log : List Log.Entry}
    (doing : system.stack party = activity :: rest)
    (same : changed.activities = system.activities ∧ changed.reapers = system.reapers)
    (change : Change system.registry party (activity :: rest) changed.registry rest
      (system.gained party (some reply))) :
    Performs system party (changed.finish party reply log) := by
  have frames (other : Party) : changed.stack other = system.stack other := by
    rw [stack, same.1, stack]
  refine ⟨⟨?_, ?_⟩, same.2⟩
  · rw [stack_finish, if_pos rfl, frames, doing]
    exact change
  · intro other apart
    rw [stack_finish, if_neg apart, frames]

theorem exclusive_enter (reader owner : Party) :
    (Latch.exclusive owner).enter reader = .exclusive owner := rfl

theorem exclusive_leave (reader owner : Party) :
    (Latch.exclusive owner).leave reader = .exclusive owner := rfl

theorem Advance.performs {activity : Activity κ} {rest : List (Activity κ)} {stepped : Stepped κ α}
    (advance : Advance system party activity stepped) (doing : system.stack party = activity :: rest) :
    Performs system party stepped := by
  cases advance with
  | find free found => exact .turn doing ⟨rfl, rfl⟩ rfl (.find rest found)
  | insert free => exact .turn doing ⟨rfl, rfl⟩ rfl (.insert rest free)
  | retry unlocked retired => exact .turn doing ⟨rfl, rfl⟩ rfl (.retry _ rest retired)
  | join unlocked usable alive =>
      refine .finish doing ⟨rfl, rfl⟩ ?_
      simp only [gained, doing, List.head?_cons, Option.bind_some, Activity.key?, Option.map_some]
      exact .join _ rest usable alive
  | lock unlocked usable dead =>
      exact .turn doing ⟨rfl, rfl⟩ rfl (.lock _ rest unlocked usable dead)
  | occupy removed inside free => exact .turn doing ⟨rfl, rfl⟩ rfl (.occupy removed rest free)
  | skip shard left removed live => exact .turn doing ⟨rfl, rfl⟩ rfl (.skip shard _ left removed rest)
  | retire shard key left removed dead =>
      exact .turn doing ⟨rfl, rfl⟩ rfl (.retire shard key left removed rest dead)
  | unlink key shard left removed =>
      exact .turn doing ⟨rfl, rfl⟩ rfl (.unlink key shard left removed rest)
  | vacate shard removed => exact .turn doing ⟨rfl, rfl⟩ rfl (.vacate shard removed rest)
  | visit count inside free =>
      exact .turn doing ⟨rfl, rfl⟩ rfl (.pass rest _ _ rfl rfl (exclusive_enter party)
        (Or.inl ⟨free, rfl, rfl, rfl⟩) rfl)
  | leave shard count =>
      exact .turn doing ⟨rfl, rfl⟩ rfl (.pass rest _ _ rfl rfl (exclusive_leave party)
        (Or.inr ⟨rfl, rfl⟩) rfl)
  | miss | report | measure | count => exact .turn doing ⟨rfl, rfl⟩ rfl (.turn rest rfl rfl rfl rfl)
  | purged | measured | logged | surveyed | joined =>
      exact .finish doing ⟨rfl, rfl⟩ (.finish rest rfl rfl)

theorem proceed_performs {stepped : Stepped κ α} (performed : system.proceed party = some stepped) :
    Performs system party stepped := by
  rcases exists_advance performed with ⟨activity, rest, doing, advance⟩
  exact advance.performs doing

theorem built_performs {key : κ} {slot : SlotId} {rest : List (Activity κ)}
    (doing : system.stack party = .building key slot :: rest) (content : α) :
    Performs system party (system.begin party (.built content)) := by
  have active : system.activity? party = some (.building key slot) := congrArg List.head? doing
  simp only [begin, active]
  refine .finish doing ⟨rfl, rfl⟩ ?_
  simp only [gained, doing, List.head?_cons, Option.bind_some, Activity.key?, Option.map_some]
  exact .publish key slot content rest

theorem failed_performs {key : κ} {slot : SlotId} {rest : List (Activity κ)}
    (doing : system.stack party = .building key slot :: rest) :
    Performs system party (system.begin party .failed) := by
  have active : system.activity? party = some (.building key slot) := congrArg List.head? doing
  simp only [begin, active]
  exact .finish doing ⟨rfl, rfl⟩ (.fail key slot rest)

/-- A thread clones or drops a reference, or it begins something, or a factory ends. -/
theorem begin_transition {held : List (Reference κ)} {thread : ThreadId} {operation : Operation κ α}
    (alive : ∀ row ∈ held, 0 < system.registry.references row.object)
    (able : system.canBegin held thread operation = true) :
    Transition system held (system.begin (.caller thread) operation).state
      (system.record held (system.begin (.caller thread) operation).reply
        (.begin thread operation)) := by
  have pushes {changed : RegistrySystem κ α} {activity : Activity κ}
      (same : changed.activities = system.activities)
      (untouched : changed.registry = system.registry)
      (ready : (system.stack (.caller thread)).head?.all Activity.isBuilding = true)
      (loose : activity.isLoose = true) (outside : activity.latch? = none) :
      Transition system held (changed.push (.caller thread) activity) (held ++ []) :=
    .change (.caller thread) (.push same untouched ready loose outside) rfl
  have rests {after : RegistrySystem κ α} (untouched : after.registry = system.registry)
      (same : after.activities = system.activities) :
      Transition system held after (held ++ []) := by
    rw [List.append_nil]
    refine .rest untouched fun party => ?_
    rw [stack, same, stack]
  cases operation with
  | get key => exact pushes rfl rfl able rfl rfl
  | purge => exact pushes rfl rfl able rfl rfl
  | size => exact pushes rfl rfl able rfl rfl
  | liveCount => exact pushes rfl rfl able rfl rfl
  | stopReaper id => exact pushes rfl rfl able rfl rfl
  | own => exact rests rfl rfl
  | disown => exact rests rfl rfl
  | isReaperRunning id => exact rests rfl rfl
  | spawnReaper config refusal =>
      simp only [begin]
      split <;> exact rests rfl rfl
  | refer object =>
      rw [canBegin, Bool.and_eq_true, List.any_eq_true] at able
      rcases able.2 with ⟨witness, listed, names⟩
      cases found : held.find? (·.object = object) with
      | none => simp [List.find?_eq_none.mp found witness listed] at names
      | some row =>
          have mem := List.mem_of_find?_eq_some found
          have own : row.object = object := by simpa using List.find?_some found
          subst own
          have refers : (system.begin (.caller thread) (.refer row.object)).state
              = system.modify (·.refer row.object) := by
            simp only [begin, if_pos (alive row mem), answer]
          simp only [record, found, Option.toList_some]
          rw [refers]
          exact .clone mem rfl (fun _ => rfl)
  | release object =>
      rw [canBegin, Bool.and_eq_true, List.any_eq_true] at able
      rcases able.2 with ⟨row, listed, names⟩
      exact .drop ⟨row, listed, by simpa using names⟩ rfl (fun _ => rfl)
  | built content =>
      rcases exists_building able with ⟨key, slot, rest, doing⟩
      exact .change (.caller thread) (built_performs doing content).changes rfl
  | failed =>
      rcases exists_building able with ⟨key, slot, rest, doing⟩
      exact .change (.caller thread) (failed_performs doing).changes rfl

/-- A reaper purges, or it waits. -/
theorem reap_transition {held : List (Reference κ)} {now : Instant} {id : Nat}
    {stepped : Stepped κ α} (reaping : Reaping system)
    (performed : system.reap now id = some stepped) :
    Transition system held stepped.state held := by
  rcases reap_eq_some_iff.mp performed with ⟨reaper, listed, wake⟩
  have purges {inner : Stepped κ α} (purges : reaper.phase = .purging)
      (proceeded : system.proceed (.agent id) = some inner) :
      Changes system (.agent id) inner.state none := by
    have changes := (proceed_performs proceeded).changes
    rwa [gained_of_purge (reaping.purging listed purges)] at changes
  cases wake with
  | start | ends => exact .rest rfl (fun _ => rfl)
  | sweep waits =>
      have idle := reaping.resting listed (by simp [waits])
      exact .change (.agent id) (.push rfl rfl (by rw [idle]; rfl) rfl rfl) (List.append_nil held).symm
  | purge busy proceeded silent =>
      exact .change (.agent id) (purges busy proceeded) (List.append_nil held).symm
  | rest busy proceeded replies =>
      have changes := purges busy proceeded
      exact .change (.agent id) ⟨changes.change, changes.others⟩ (List.append_nil held).symm

section Reaping

/-- After a step of a purge, the party purges on, or it has replied and does nothing. -/
def Purges (party : Party) (stepped : Stepped κ α) : Prop :=
  stepped.reply = none ∧ (∃ next, stepped.state.stack party = [next] ∧ next.isPurge = true) ∨
    stepped.reply ≠ none ∧ stepped.state.stack party = []

/-- A purge goes on until it replies. -/
theorem Advance.purges {activity : Activity κ} {stepped : Stepped κ α}
    (advance : Advance system party activity stepped) (doing : system.stack party = [activity])
    (purge : activity.isPurge = true) : Purges party stepped := by
  have turns {changed : RegistrySystem κ α} (next : Activity κ)
      (same : changed.activities = system.activities) (purges : next.isPurge = true) :
      Purges party { state := changed.turnTo party next } := by
    refine Or.inl ⟨rfl, next, ?_, purges⟩
    rw [stack_turnTo, if_pos rfl, stack, same, ← stack, doing]
    rfl
  have ends (reply : Reply) (log : List Log.Entry) : Purges party (system.finish party reply log) := by
    refine Or.inr ⟨Option.some_ne_none reply, ?_⟩
    rw [stack_finish, if_pos rfl, doing]
    rfl
  cases advance with
  | occupy | skip | retire | unlink | vacate | report | measure => exact turns _ rfl rfl
  | purged | measured | logged => exact ends _ _
  | _ => cases purge

theorem reaping_reap {now : Instant} {id : Nat} {stepped : Stepped κ α} (reaping : Reaping system)
    (performed : system.reap now id = some stepped) : Reaping stepped.state := by
  rcases reap_eq_some_iff.mp performed with ⟨reaper, listed, wake⟩
  have rests (idle : reaper.phase ≠ .purging) (change : Reaper → Reaper)
      (stands : ∀ reaper, (change reaper).owns = false) :
      Reaping (system.modifyReaper id change) :=
    reaping.settle id change rfl stands (fun _ _ => rfl) (reaping.resting listed idle)
  have others {inner : Stepped κ α} (proceeded : system.proceed (.agent id) = some inner) (other : Nat)
      (apart : id ≠ other) : inner.state.stack (.agent other) = system.stack (.agent other) :=
    (proceed_performs proceeded).changes.others _ (fun same => apart (Party.agent.inj same))
  cases wake with
  | start starts => exact rests (by simp [starts]) _ fun _ => rfl
  | ends waits => exact rests (by simp [waits]) _ fun _ => rfl
  | sweep waits =>
      refine reaping.keepOthers id (fun other apart => ?_) (fun other apart => ?_) ?_
      · exact (owns_modifyReaper system id other _).trans (if_neg apart)
      · refine (stack_push _ _ _ _).trans (if_neg ?_)
        exact fun same => apart (Party.agent.inj same)
      · have owns : (system.modifyReaper id fun reaper =>
            { reaper with phase := .purging }).reapers[id]?.any Reaper.owns = true := by
          rw [owns_modifyReaper, if_pos rfl, listed]
          rfl
        refine (if_pos owns).mpr ⟨.approaching 0 0, ?_, rfl⟩
        refine (stack_push _ _ _ _).trans ((if_pos rfl).trans ?_)
        exact congrArg (List.cons _) (reaping.resting listed (by simp [waits]))
  | purge busy proceeded silent =>
      rcases reaping.purging listed busy with ⟨activity, doing, purge⟩
      have performs := proceed_performs proceeded
      have advance := (proceed_eq_some_iff (congrArg List.head? doing)).mp proceeded
      refine reaping.keepOthers id (fun other _ => by rw [performs.reapers]) (others proceeded) ?_
      have owns : stepped.state.reapers[id]?.any Reaper.owns = true := by
        rw [performs.reapers, listed, Option.any_some, Reaper.owns, busy]
        rfl
      rcases advance.purges doing purge with ⟨_, purges⟩ | ⟨replies, _⟩
      · exact (if_pos owns).mpr purges
      · exact absurd silent replies
  | rest busy proceeded replied =>
      rcases reaping.purging listed busy with ⟨activity, doing, purge⟩
      have advance := (proceed_eq_some_iff (congrArg List.head? doing)).mp proceeded
      rcases advance.purges doing purge with ⟨silent, _⟩ | ⟨_, idle⟩
      · cases replied.symm.trans silent
      · have kept := others proceeded
        exact reaping.settle id _ (congrArg (List.modify · id _) (proceed_performs proceeded).reapers)
          (fun _ => rfl) kept idle

/-- A reaper goes on doing nothing but purge. -/
theorem reaping_of_perform {held : List (Reference κ)} {now : Instant} {move : Move κ α}
    {stepped : Stepped κ α} (reaping : Reaping system)
    (performed : system.perform held now move = some stepped) : Reaping stepped.state := by
  cases move with
  | begin thread operation =>
      simp only [perform] at performed
      split at performed
      · obtain rfl := Option.some.inj performed
        exact reaping_begin reaping thread operation
      · cases performed
  | proceed thread =>
      have performs := proceed_performs performed
      refine reaping.keep (fun id => by rw [performs.reapers]) fun id => ?_
      exact performs.changes.others _ (by rintro ⟨⟩)
  | reap id => exact reaping_reap reaping performed

end Reaping

/-- Every step of a schedule is a transition. -/
theorem perform_transition {held : List (Reference κ)} {now : Instant} {move : Move κ α}
    {stepped : Stepped κ α} (reaping : Reaping system)
    (alive : ∀ row ∈ held, 0 < system.registry.references row.object)
    (performed : system.perform held now move = some stepped) :
    Transition system held stepped.state (system.record held stepped.reply move) := by
  cases move with
  | begin thread operation =>
      simp only [perform] at performed
      split at performed
      · rename_i able
        obtain rfl := Option.some.inj performed
        exact begin_transition alive able
      · cases performed
  | proceed thread => exact .change _ (proceed_performs performed).changes rfl
  | reap id => exact reap_transition reaping performed

end Performing

end Coordination.RegistrySystem
