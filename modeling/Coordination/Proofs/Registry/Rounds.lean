import Coordination.Proofs.Registry.Retirement

/-!
# The rounds of a get

A thread that gets an object looks the slot of the key up and locks it, and if the slot is retired then it
begins another round. A look-up never finds a slot that is retired already, since a purge keeps the latch of
the shard until the slot is unlinked (`usable_of_reader`). So the slot of a lost round was retired between
the look-up and the lock (`Lost`), and there is at most one round more than there are retirements of slots
of the key while the get goes on (`rounds_of_history`).

In the last round the slot is not retired, and then the thread gets an object there or it builds one, and
the get ends with the building (`Settles`).
-/

namespace Coordination

theorem Latch.admitsReader_of_admitsWriter {latch : Latch} (admits : latch.admitsWriter = true) :
    latch.admitsReader = true := by
  cases latch <;> first | rfl | cases admits

namespace RegistrySystem

variable {κ α : Type}

/-- Whether a thread begins a round of a get with an event. The depth of the get is the number of the
activities that are outside of it. -/
def Event.startsRound (event : Event κ α) (thread : ThreadId) (depth : Nat) : Bool :=
  match event.after.stack (.caller thread) with
  | .lookingUp _ :: outside => event.move.party = .caller thread && outside.length = depth
  | _ => false

/-- The number of the rounds that the get of a thread begins. -/
def rounds (thread : ThreadId) (depth : Nat) (events : List (Event κ α)) : Nat :=
  events.countP (·.startsRound thread depth)

/-- The slot of a key is retired. -/
structure Event.Retires [DecidableEq κ] (event : Event κ α) (key : κ) (slot : SlotId) : Prop where
  found : event.before.registry.find key = some slot
  usable : (event.before.registry.slots.get slot).retired = false
  retired : (event.after.registry.slots.get slot).retired = true

/-- Whether the slot of a key is retired, whichever it is. -/
def Event.retires [DecidableEq κ] (event : Event κ α) (key : κ) : Bool :=
  (event.before.registry.find key).any fun slot =>
    !(event.before.registry.slots.get slot).retired && (event.after.registry.slots.get slot).retired

/-- The number of the retirements of slots of a key. -/
def retirements [DecidableEq κ] (key : κ) (events : List (Event κ α)) : Nat :=
  events.countP (·.retires key)

/-- A get in a list of events, from its first step to the last one, or to some step in between. -/
structure Getting (events : List (Event κ α)) (thread : ThreadId) (key : κ) (first : Event κ α)
    (during : List (Event κ α)) : Prop where
  cut : ∃ earlier later, events = earlier ++ first :: during ++ later
  begins : first.move = .begin thread (.get key)
  pending : ∀ event ∈ during, (first.before.stack (.caller thread)).length
    < (event.before.stack (.caller thread)).length

section Grammar

variable (thread : ThreadId) (key : κ) (outside : List (Activity κ)) (slot : SlotId)

/-- A thread is building an object, or something further in. -/
def Builds (system : RegistrySystem κ α) : Prop :=
  ∃ inside, system.stack (.caller thread) = inside ++ .building key slot :: outside

/-- After an event a thread has still to find a slot. -/
def Event.Looks (event : Event κ α) : Prop :=
  event.after.stack (.caller thread) = .inserting key :: outside ∨
    event.move.party ≠ .caller thread ∧ event.after.stack (.caller thread) = .lookingUp key :: outside

/-- The part of a round in which the thread looks a slot up and waits for the lock of the slot. -/
structure Seeks (looking : List (Event κ α)) (lookup : Event κ α) (waiting : List (Event κ α)) :
    Prop where
  looks : ∀ event ∈ looking, event.Looks thread key outside
  own : lookup.move.party = .caller thread
  finds : lookup.after.stack (.caller thread) = .entering key slot :: outside
  waits : ∀ event ∈ waiting, event.move.party ≠ .caller thread ∧
    event.after.stack (.caller thread) = .entering key slot :: outside

/-- How a get goes on and ends when a thread has locked a slot that is not retired. -/
inductive Settles (lock : Event κ α) : List (Event κ α) → RegistrySystem κ α → Prop where
  | returns {id : ObjectId} (reply : lock.reply = some (.object id))
      (done : lock.after.stack (.caller thread) = outside) : Settles lock [] lock.after
  | builds {working : List (Event κ α)} {system : RegistrySystem κ α} (reply : lock.reply = some .build)
      (works : ∀ event ∈ lock :: working, Builds thread key outside slot event.after)
      (here : Builds thread key outside slot system) : Settles lock working system
  /-- The object is built, or its factory panics. -/
  | ends {working : List (Event κ α)} {last : Event κ α} (reply : lock.reply = some .build)
      (works : ∀ event ∈ lock :: working, Builds thread key outside slot event.after)
      (ends : (∃ content id, last.move = .begin thread (.built content) ∧
          last.reply = some (.object id)) ∨ last.move = .begin thread .failed)
      (done : last.after.stack (.caller thread) = outside) :
      Settles lock (working ++ [last]) last.after

variable [DecidableEq κ]

/-- A round in which the slot is retired between the look-up and the lock. -/
inductive Lost : List (Event κ α) → Prop where
  | intro {slot : SlotId} {looking waiting : List (Event κ α)} {lookup cause lock : Event κ α}
      (seeks : Seeks thread key outside slot looking lookup waiting) (mem : cause ∈ waiting)
      (retires : cause.Retires key slot) (own : lock.move.party = .caller thread)
      (retired : (lock.before.registry.slots.get slot).retired = true)
      (again : lock.after.stack (.caller thread) = .lookingUp key :: outside) :
      Lost (looking ++ lookup :: waiting ++ [lock])

/-- The last round so far, and the state to which it has led. -/
inductive Last : List (Event κ α) → RegistrySystem κ α → Prop where
  | looks {looking : List (Event κ α)} {system : RegistrySystem κ α}
      (looks : ∀ event ∈ looking, event.Looks thread key outside)
      (here : system.stack (.caller thread) = .lookingUp key :: outside ∨
        system.stack (.caller thread) = .inserting key :: outside) : Last looking system
  | waits {slot : SlotId} {looking waiting : List (Event κ α)} {lookup : Event κ α}
      {system : RegistrySystem κ α} (seeks : Seeks thread key outside slot looking lookup waiting)
      (here : system.stack (.caller thread) = .entering key slot :: outside)
      (caused : (system.registry.slots.get slot).retired = true →
        ∃ cause ∈ waiting, cause.Retires key slot) : Last (looking ++ lookup :: waiting) system
  | locks {slot : SlotId} {looking waiting later : List (Event κ α)} {lookup lock : Event κ α}
      {system : RegistrySystem κ α} (seeks : Seeks thread key outside slot looking lookup waiting)
      (own : lock.move.party = .caller thread)
      (usable : (lock.before.registry.slots.get slot).retired = false)
      (settles : Settles thread key outside slot lock later system) :
      Last (looking ++ lookup :: waiting ++ lock :: later) system

/-- How a get goes. -/
structure Rounds (first : Event κ α) (during : List (Event κ α)) : Prop where
  /-- All rounds but the last one are lost. -/
  split : ∃ (lost : List (List (Event κ α))) (last : List (Event κ α)) (final : RegistrySystem κ α),
    during = lost.flatten ++ last ∧ (∀ round ∈ lost, Lost thread key outside round) ∧
      Last thread key outside last final ∧
      rounds thread outside.length (first :: during) = lost.length + 1
  bounded : rounds thread outside.length (first :: during) ≤ retirements key during + 1
  /-- A round that finds its slot not retired is not followed by another one. -/
  settles : ∀ earlier lock later slot, during = earlier ++ lock :: later →
    lock.move.party = .caller thread →
      lock.before.stack (.caller thread) = .entering key slot :: outside →
        (lock.before.registry.slots.get slot).retired = false →
          rounds thread outside.length later = 0 ∧
            ∃ final, Settles thread key outside slot lock later final

end Grammar

variable [DecidableEq κ] {held : List (Reference κ)} {system : RegistrySystem κ α} {now : Instant}
  {move : Move κ α} {stepped : Stepped κ α} {thread : ThreadId} {key : κ} {slot : SlotId}
  {outside : List (Activity κ)}

section Finding

/-- As long as the slot of a retired entry is in the map, its shard lets nobody in. -/
theorem usable_of_reader (reachable : Reachable held system) (found : system.registry.find key = some slot)
    (admits : (system.registry.latchOf key).admitsReader = true) :
    (system.registry.slots.get slot).retired = false := by
  rw [← Bool.not_eq_true]
  intro retired
  rcases (orderly_of_reachable reachable).leaving _ (Registry.mem_entries_of_find found) retired with
    ⟨party, shard, left, removed, unlinks⟩
  rcases (invariant_of_reachable reachable).sound.fits party _ unlinks with ⟨latch, _, _, inside, _⟩
  rw [Registry.latchOf, inside, latch] at admits
  cases admits

/-- A thread that is not building goes on with what it is doing. -/
theorem proceeds_of_busy {activity : Activity κ} {rest : List (Activity κ)}
    (performed : system.perform held now move = some stepped) (own : move.party = .caller thread)
    (doing : system.stack (.caller thread) = activity :: rest) (busy : activity.isBuilding = false) :
    system.proceed (.caller thread) = some stepped := by
  cases move with
  | begin actor operation =>
      obtain rfl : actor = thread := Party.caller.inj own
      have unable : system.canBegin held actor operation = false := by
        cases operation <;> simp [canBegin, doing, busy]
      simp [perform, unable] at performed
  | proceed actor =>
      obtain rfl : actor = thread := Party.caller.inj own
      exact performed
  | reap id => cases own

/-- A look-up inserts a slot or finds one, and that is not retired. -/
theorem looks_of_proceed (reachable : Reachable held system)
    (proceeded : system.proceed (.caller thread) = some stepped)
    (here : system.stack (.caller thread) = .lookingUp key :: outside ∨
      system.stack (.caller thread) = .inserting key :: outside) :
    stepped.state.stack (.caller thread) = .inserting key :: outside ∨
      ∃ slot, stepped.state.stack (.caller thread) = .entering key slot :: outside ∧
        (stepped.state.registry.slots.get slot).retired = false := by
  rcases here with doing | doing
  · cases (proceed_eq_some_iff (congrArg List.head? doing)).mp proceeded with
    | miss free absent => exact Or.inl (stack_turnTo_of_doing doing _ rfl)
    | @find _ slot free found =>
        have usable := usable_of_reader reachable found free
        exact Or.inr ⟨slot, stack_turnTo_of_doing doing _ rfl, usable⟩
  · cases (proceed_eq_some_iff (congrArg List.head? doing)).mp proceeded with
    | insert free =>
        refine Or.inr ⟨(system.registry.insert key).2, stack_turnTo_of_doing doing _ rfl, ?_⟩
        cases found : system.registry.find key with
        | none => simp [modify, turnTo, Registry.insert_of_find_eq_none found]
        | some slot =>
            have usable := usable_of_reader reachable found (Latch.admitsReader_of_admitsWriter free)
            simpa [modify, turnTo, Registry.insert_of_find_eq_some found] using usable

/-- A thread that locks a slot begins another round if the slot is retired. Otherwise it gets an object or
goes on to build one. -/
theorem locks_of_proceed (proceeded : system.proceed (.caller thread) = some stepped)
    (doing : system.stack (.caller thread) = .entering key slot :: outside) :
    (system.registry.slots.get slot).retired = true ∧
        stepped.state.stack (.caller thread) = .lookingUp key :: outside ∨
      (system.registry.slots.get slot).retired = false ∧
        ((∃ id, stepped.reply = some (.object id) ∧ stepped.state.stack (.caller thread) = outside) ∨
          stepped.reply = some .build ∧
            stepped.state.stack (.caller thread) = .building key slot :: outside) := by
  cases (proceed_eq_some_iff (congrArg List.head? doing)).mp proceeded with
  | retry unlocked retired => exact Or.inl ⟨retired, stack_turnTo_of_doing doing _ rfl⟩
  | join unlocked usable alive =>
      exact Or.inr ⟨usable, Or.inl ⟨_, rfl, stack_finish_of_doing doing _ _ rfl⟩⟩
  | lock unlocked usable dead =>
      exact Or.inr ⟨usable, Or.inr ⟨rfl, stack_turnTo_of_doing doing _ rfl⟩⟩

end Finding

section Building

/-- A step of a party concerns the innermost of its activities only. -/
theorem Change.tail_suffix {registry after : Registry κ α} {party : Party}
    {before following : List (Activity κ)} {gain : Option (Reference κ)}
    (change : Change registry party before after following gain) : before.tail <:+ following := by
  cases change with
  | begin => exact (List.tail_suffix before).trans (List.suffix_cons _ before)
  | finish | publish | fail | join => exact List.suffix_refl _
  | _ => exact List.suffix_cons _ _

theorem tail_suffix_of_transition {next : List (Reference κ)} {after : RegistrySystem κ α}
    (transition : Transition system held after next) (party : Party) :
    (system.stack party).tail <:+ after.stack party := by
  cases transition with
  | change actor changes gains =>
      by_cases own : actor = party
      · subst own
        exact changes.change.tail_suffix
      · rw [changes.others party own]
        exact List.tail_suffix _
  | clone _ _ same | drop _ _ same | rest _ same =>
      rw [same]
      exact List.tail_suffix _

omit [DecidableEq κ] in
/-- What a thread does that is asked to build an object. -/
theorem builds_of_begin (operation : Operation κ α)
    (doing : system.stack (.caller thread) = .building key slot :: outside) :
    Builds thread key outside slot (system.begin (.caller thread) operation).state ∨
      (system.begin (.caller thread) operation).state.stack (.caller thread) = outside ∧
        ((∃ content id, operation = .built content ∧
          (system.begin (.caller thread) operation).reply = some (.object id)) ∨ operation = .failed) := by
  have active : system.activity? (.caller thread) = some (.building key slot) := congrArg List.head? doing
  have pushes {changed : RegistrySystem κ α} (next : Activity κ)
      (same : changed.activities = system.activities) :
      Builds thread key outside slot (changed.push (.caller thread) next) := by
    refine ⟨[next], ?_⟩
    rw [stack_push, if_pos rfl, stack_congr same, doing, List.singleton_append]
  have rests {changed : RegistrySystem κ α} (same : changed.activities = system.activities) :
      Builds thread key outside slot changed := ⟨[], by rw [stack_congr same, doing, List.nil_append]⟩
  cases operation with
  | get | purge | size | liveCount | stopReaper => exact Or.inl (pushes _ rfl)
  | release | own | disown | isReaperRunning => exact Or.inl (rests rfl)
  | refer object =>
      simp only [begin]
      split <;> exact Or.inl (rests rfl)
  | spawnReaper config refusal =>
      simp only [begin]
      split <;> exact Or.inl (rests rfl)
  | built content =>
      simp only [begin, active]
      exact Or.inr ⟨stack_finish_of_doing doing _ _ rfl, Or.inl ⟨_, _, rfl, rfl⟩⟩
  | failed =>
      simp only [begin, active]
      exact Or.inr ⟨stack_finish_of_doing doing _ _ rfl, Or.inr trivial⟩

/-- A building goes on until the object is built or its factory panics. -/
theorem Builds.step (builds : Builds thread key outside slot system) (reachable : Reachable held system)
    (performed : system.perform held now move = some stepped) :
    Builds thread key outside slot stepped.state ∨
      stepped.state.stack (.caller thread) = outside ∧
        ((∃ content id, move = .begin thread (.built content) ∧ stepped.reply = some (.object id)) ∨
          move = .begin thread .failed) := by
  have invariant := invariant_of_reachable reachable
  rcases builds with ⟨inside, doing⟩
  by_cases own : move.party = .caller thread
  · cases inside with
    | nil =>
        cases move with
        | begin actor operation =>
            obtain rfl : actor = thread := Party.caller.inj own
            simp only [perform, Option.ite_none_right_eq_some, Option.some.injEq] at performed
            obtain rfl := performed.2
            rcases builds_of_begin operation doing with still | ⟨done, ends⟩
            · exact Or.inl still
            · refine Or.inr ⟨done, ends.imp ?_ ?_⟩
              · rintro ⟨content, id, rfl, reply⟩
                exact ⟨content, id, rfl, reply⟩
              · rintro rfl
                rfl
        | proceed actor =>
            obtain rfl : actor = thread := Party.caller.inj own
            have active : system.activity? (.caller actor) = some (.building key slot) :=
              congrArg List.head? doing
            simp [perform, RegistrySystem.step, proceed, active] at performed
        | reap id => cases own
    | cons activity inside =>
        rcases tail_suffix_of_transition (invariant.transition performed) (.caller thread) with
          ⟨head, whole⟩
        refine Or.inl ⟨head ++ inside, ?_⟩
        rw [← whole, doing, List.cons_append, List.tail_cons, List.append_assoc]
  · have same := (perform_leads invariant.reaping performed).stack_of_ne own
    exact Or.inl ⟨inside, same.trans doing⟩

end Building

section Going

variable {event first : Event κ α} {later during last : List (Event κ α)}

theorem stack_of_get (happens : event.Happens) (begins : event.move = .begin thread (.get key)) :
    event.after.stack (.caller thread) = .lookingUp key :: event.before.stack (.caller thread) := by
  rcases happens with ⟨_, stepped, performed, after, _⟩
  rw [begins] at performed
  simp only [perform, begin, Option.ite_none_right_eq_some, Option.some.injEq] at performed
  rw [after, ← performed.2, stack_push, if_pos rfl]

/-- A thread that locks a slot that is not retired gets an object there or builds one. -/
theorem Settles.of_lock (happens : event.Happens) (own : event.move.party = .caller thread)
    (doing : event.before.stack (.caller thread) = .entering key slot :: outside)
    (usable : (event.before.registry.slots.get slot).retired = false) :
    Settles thread key outside slot event [] event.after := by
  rcases happens with ⟨_, stepped, performed, after, reply⟩
  have proceeded := proceeds_of_busy performed own doing rfl
  rcases locks_of_proceed proceeded doing with
    ⟨retired, _⟩ | ⟨_, ⟨id, answer, done⟩ | ⟨answer, building⟩⟩
  · cases usable.symm.trans retired
  · rw [← after] at done
    rw [← reply] at answer
    exact .returns answer done
  · rw [← after] at building
    rw [← reply] at answer
    have builds : Builds thread key outside slot event.after := ⟨[], building⟩
    refine .builds answer (fun other mem => ?_) builds
    rw [List.mem_singleton.mp mem]
    exact builds

theorem Settles.step {lock : Event κ α} (settles : Settles thread key outside slot lock later event.before)
    (happens : event.Happens)
    (pending : outside.length < (event.before.stack (.caller thread)).length) :
    Settles thread key outside slot lock (later ++ [event]) event.after := by
  rcases happens with ⟨reachable, stepped, performed, after, reply⟩
  generalize start : event.before = before at settles
  cases settles with
  | returns answer done =>
      rw [start, done] at pending
      exact absurd pending (Nat.lt_irrefl _)
  | builds answer works here =>
      rw [← start] at here
      rcases here.step reachable performed with still | ⟨done, ends⟩
      · rw [← after] at still
        refine .builds answer (fun other mem => ?_) still
        rcases List.mem_cons.mp mem with rfl | mem
        · exact works _ List.mem_cons_self
        · rcases List.mem_append.mp mem with former | same
          · exact works other (List.mem_cons_of_mem _ former)
          · rw [List.mem_singleton.mp same]
            exact still
      · rw [← after] at done
        rw [← reply] at ends
        exact .ends answer works ends done
  | ends answer works ends done =>
      rw [start, done] at pending
      exact absurd pending (Nat.lt_irrefl _)

/-- A retirement is one of the slot of the key as long as a thread waits for the lock of the slot. -/
theorem retires_of_waiting (reachable : Reachable event.held event.before)
    (doing : event.before.stack (.caller thread) = .entering key slot :: outside)
    (usable : (event.before.registry.slots.get slot).retired = false)
    (retired : (event.after.registry.slots.get slot).retired = true) : event.Retires key slot := by
  have fits := (invariant_of_reachable reachable).sound.fits (.caller thread) (.entering key slot)
    (by rw [doing]; exact List.mem_cons_self)
  refine ⟨fits.2.resolve_right fun also => ?_, usable, retired⟩
  rw [usable] at also
  cases also

omit [DecidableEq κ] in
theorem Seeks.wait {looking waiting : List (Event κ α)} {lookup : Event κ α}
    (seeks : Seeks thread key outside slot looking lookup waiting)
    (foreign : event.move.party ≠ .caller thread)
    (still : event.after.stack (.caller thread) = .entering key slot :: outside) :
    Seeks thread key outside slot looking lookup (waiting ++ [event]) := by
  refine ⟨seeks.looks, seeks.own, seeks.finds, fun other mem => ?_⟩
  rcases List.mem_append.mp mem with former | same
  · exact seeks.waits other former
  · rw [List.mem_singleton.mp same]
    exact ⟨foreign, still⟩

/-- With every step the last round goes on, or it is lost and the thread begins another one. -/
theorem Last.step (round : Last thread key outside last event.before) (happens : event.Happens)
    (pending : outside.length < (event.before.stack (.caller thread)).length) :
    Last thread key outside (last ++ [event]) event.after ∨
      Lost thread key outside (last ++ [event]) ∧
        event.after.stack (.caller thread) = .lookingUp key :: outside := by
  have ⟨reachable, stepped, performed, after, reply⟩ := happens
  have stays (foreign : event.move.party ≠ .caller thread) :
      event.after.stack (.caller thread) = event.before.stack (.caller thread) := by
    rw [after]
    exact (perform_leads (invariant_of_reachable reachable).reaping performed).stack_of_ne foreign
  generalize start : event.before = before at round
  cases round with
  | looks looks here =>
      rw [← start] at here
      have goesOn (look : event.Looks thread key outside)
          (here : event.after.stack (.caller thread) = .lookingUp key :: outside ∨
            event.after.stack (.caller thread) = .inserting key :: outside) :
          Last thread key outside (last ++ [event]) event.after := by
        refine .looks (fun other mem => ?_) here
        rcases List.mem_append.mp mem with former | same
        · exact looks other former
        · rw [List.mem_singleton.mp same]
          exact look
      by_cases own : event.move.party = .caller thread
      · have proceeded : event.before.proceed (.caller thread) = some stepped := by
          rcases here with doing | doing <;> exact proceeds_of_busy performed own doing rfl
        rcases looks_of_proceed reachable proceeded here with inserting | ⟨slot, finds, usable⟩
        · rw [← after] at inserting
          exact Or.inl (goesOn (Or.inl inserting) (Or.inr inserting))
        · rw [← after] at finds usable
          refine Or.inl (.waits ⟨looks, own, finds, by rintro _ ⟨⟩⟩ finds fun retired => ?_)
          rw [usable] at retired
          cases retired
      · rw [← stays own] at here
        exact Or.inl (goesOn (here.elim (fun doing => Or.inr ⟨own, doing⟩) Or.inl) here)
  | @waits slot looking waiting lookup _ seeks here caused =>
      rw [← start] at here caused
      by_cases own : event.move.party = .caller thread
      · -- The thread locks the slot, which ends the round one way or the other.
        cases retired : (event.before.registry.slots.get slot).retired with
        | false => exact Or.inl (.locks seeks own retired (.of_lock happens own here retired))
        | true =>
            have proceeded := proceeds_of_busy performed own here rfl
            rcases locks_of_proceed proceeded here with ⟨_, again⟩ | ⟨usable, _⟩
            · rw [← after] at again
              rcases caused retired with ⟨cause, mem, retires⟩
              exact Or.inr ⟨.intro seeks mem retires own retired again, again⟩
            · cases usable.symm.trans retired
      · have still := (stays own).trans here
        rw [List.append_assoc, List.cons_append]
        refine Or.inl (.waits (seeks.wait own still) still fun retired => ?_)
        -- If the slot is retired now then it was before, or this is the retirement.
        cases usable : (event.before.registry.slots.get slot).retired with
        | true =>
            rcases caused usable with ⟨cause, mem, retires⟩
            exact ⟨cause, List.mem_append_left _ mem, retires⟩
        | false =>
            exact ⟨event, List.mem_append_right _ List.mem_cons_self,
              retires_of_waiting reachable here usable retired⟩
  | locks seeks own usable settles =>
      rw [← start] at settles
      rw [List.append_assoc, List.cons_append]
      exact Or.inl (.locks seeks own usable (settles.step happens pending))

/-- The rounds of a get, up to the state that it has reached. -/
theorem split_of_history {earlier : List (Event κ α)}
    (history : History (earlier ++ first :: during) held system)
    (begins : first.move = .begin thread (.get key))
    (pending : ∀ event ∈ during, (first.before.stack (.caller thread)).length
      < (event.before.stack (.caller thread)).length) :
    ∃ (lost : List (List (Event κ α))) (last : List (Event κ α)), during = lost.flatten ++ last ∧
      (∀ round ∈ lost, Lost thread key (first.before.stack (.caller thread)) round) ∧
      Last thread key (first.before.stack (.caller thread)) last system := by
  induction during using List.reverseRecOn generalizing held system with
  | nil =>
      rcases history.last with ⟨_, happens, rfl⟩
      have looks := stack_of_get happens begins
      exact ⟨[], [], rfl, by rintro _ ⟨⟩, .looks (by rintro _ ⟨⟩) (Or.inl looks)⟩
  | append_singleton rest event ih =>
      rw [← List.cons_append, ← List.append_assoc] at history
      rcases history.last with ⟨past, happens, rfl⟩
      rcases ih past fun other mem => pending other (List.mem_append_left _ mem) with
        ⟨lost, last, rfl, all, round⟩
      rcases round.step happens (pending event (List.mem_append_right _ List.mem_cons_self)) with
        goesOn | ⟨missed, again⟩
      · exact ⟨lost, last ++ [event], List.append_assoc _ _ _, all, goesOn⟩
      · refine ⟨lost ++ [last ++ [event]], [], by simp, fun round mem => ?_,
          .looks (by rintro _ ⟨⟩) (Or.inl again)⟩
        rcases List.mem_append.mp mem with former | same
        · exact all round former
        · rw [List.mem_singleton.mp same]
          exact missed

theorem settles_of_history {earlier : List (Event κ α)} {lock : Event κ α}
    (history : History (earlier ++ lock :: later) held system) (own : lock.move.party = .caller thread)
    (doing : lock.before.stack (.caller thread) = .entering key slot :: outside)
    (usable : (lock.before.registry.slots.get slot).retired = false)
    (pending : ∀ event ∈ later, outside.length < (event.before.stack (.caller thread)).length) :
    Settles thread key outside slot lock later system := by
  induction later using List.reverseRecOn generalizing held system with
  | nil =>
      rcases history.last with ⟨_, happens, rfl⟩
      exact .of_lock happens own doing usable
  | append_singleton rest event ih =>
      rw [← List.cons_append, ← List.append_assoc] at history
      rcases history.last with ⟨past, happens, rfl⟩
      have settles := ih past fun other mem => pending other (List.mem_append_left _ mem)
      exact settles.step happens (pending event (List.mem_append_right _ List.mem_cons_self))

end Going

section Counting

variable {event first : Event κ α} {later during last looking waiting : List (Event κ α)}
  {lookup lock : Event κ α}

omit [DecidableEq κ] in
theorem rounds_append (depth : Nat) (first second : List (Event κ α)) :
    rounds thread depth (first ++ second) = rounds thread depth first + rounds thread depth second :=
  List.countP_append

theorem retirements_append (key : κ) (first second : List (Event κ α)) :
    retirements key (first ++ second) = retirements key first + retirements key second :=
  List.countP_append

omit [DecidableEq κ] in
theorem startsRound_of_doing {activity : Activity κ}
    (doing : event.after.stack (.caller thread) = activity :: outside)
    (other : ∀ name, activity ≠ .lookingUp name) (depth : Nat) :
    event.startsRound thread depth = false := by
  cases activity with
  | lookingUp name => exact absurd rfl (other name)
  | _ => simp [Event.startsRound, doing]

omit [DecidableEq κ] in
theorem startsRound_of_others (foreign : event.move.party ≠ .caller thread) (depth : Nat) :
    event.startsRound thread depth = false := by
  simp only [Event.startsRound, foreign, decide_false, Bool.false_and]
  split <;> rfl

omit [DecidableEq κ] in
theorem startsRound_of_done (done : event.after.stack (.caller thread) = outside) :
    event.startsRound thread outside.length = false := by
  rw [Event.startsRound, done]
  split
  · simp
  · rfl

omit [DecidableEq κ] in
theorem startsRound_of_builds (builds : Builds thread key outside slot event.after) :
    event.startsRound thread outside.length = false := by
  rcases builds with ⟨inside, doing⟩
  rw [Event.startsRound, doing]
  cases inside with
  | nil => rfl
  | cons activity inside =>
      have deeper : (inside ++ .building key slot :: outside).length ≠ outside.length := by
        simp only [List.length_append, List.length_cons]
        omega
      cases activity with
      | lookingUp name =>
          simp only [List.cons_append]
          rw [decide_eq_false deeper, Bool.and_false]
      | _ => rfl

omit [DecidableEq κ] in
theorem Seeks.rounds_eq_zero (seeks : Seeks thread key outside slot looking lookup waiting) :
    rounds thread outside.length (looking ++ lookup :: waiting) = 0 := by
  refine List.countP_eq_zero.mpr fun event mem => ?_
  rw [Bool.not_eq_true]
  rcases List.mem_append.mp mem with looks | mem
  · rcases seeks.looks event looks with inserting | ⟨foreign, _⟩
    · exact startsRound_of_doing inserting (by simp) _
    · exact startsRound_of_others foreign _
  · rcases List.mem_cons.mp mem with rfl | waits
    · exact startsRound_of_doing seeks.finds (by simp) _
    · exact startsRound_of_others (seeks.waits event waits).1 _

omit [DecidableEq κ] in
theorem Settles.rounds_eq_zero {final : RegistrySystem κ α}
    (settles : Settles thread key outside slot lock later final) :
    rounds thread outside.length (lock :: later) = 0 := by
  refine List.countP_eq_zero.mpr fun event mem => ?_
  rw [Bool.not_eq_true]
  cases settles with
  | returns reply done =>
      rw [List.mem_singleton.mp mem]
      exact startsRound_of_done done
  | builds reply works here => exact startsRound_of_builds (works event mem)
  | ends reply works ends done =>
      rw [← List.cons_append] at mem
      rcases List.mem_append.mp mem with working | same
      · exact startsRound_of_builds (works event working)
      · rw [List.mem_singleton.mp same]
        exact startsRound_of_done done

/-- A lost round ends with the beginning of the next one. -/
theorem Lost.rounds_eq_one {round : List (Event κ α)} (missed : Lost thread key outside round) :
    rounds thread outside.length round = 1 := by
  cases missed with
  | @intro slot looking waiting lookup cause lock seeks mem retires own retired again =>
      have starts : lock.startsRound thread outside.length = true := by
        rw [Event.startsRound, again]
        simp [own]
      rw [rounds_append, seeks.rounds_eq_zero, rounds, List.countP_singleton, if_pos starts]

theorem Lost.retirements_pos {round : List (Event κ α)} (missed : Lost thread key outside round) :
    0 < retirements key round := by
  cases missed with
  | @intro slot looking waiting lookup cause lock seeks mem retires =>
      refine List.countP_pos_iff.mpr ⟨cause, by simp [mem], ?_⟩
      simp [Event.retires, retires.found, retires.usable, retires.retired]

theorem Last.rounds_eq_zero {final : RegistrySystem κ α} (round : Last thread key outside last final) :
    rounds thread outside.length last = 0 := by
  cases round with
  | looks looks here =>
      refine List.countP_eq_zero.mpr fun event mem => ?_
      rw [Bool.not_eq_true]
      rcases looks event mem with inserting | ⟨foreign, _⟩
      · exact startsRound_of_doing inserting (by simp) _
      · exact startsRound_of_others foreign _
  | waits seeks here caused => exact seeks.rounds_eq_zero
  | locks seeks own usable settles =>
      rw [rounds_append, seeks.rounds_eq_zero, settles.rounds_eq_zero]

theorem rounds_flatten {lost : List (List (Event κ α))}
    (all : ∀ round ∈ lost, Lost thread key outside round) :
    rounds thread outside.length lost.flatten = lost.length ∧
      lost.length ≤ retirements key lost.flatten := by
  induction lost with
  | nil => exact ⟨rfl, Nat.le_refl _⟩
  | cons round rest ih =>
      have missed := all round List.mem_cons_self
      have one := missed.rounds_eq_one
      have some := missed.retirements_pos
      rcases ih fun other mem => all other (List.mem_cons_of_mem _ mem) with ⟨counts, bound⟩
      rw [List.flatten_cons, List.length_cons, rounds_append, retirements_append]
      omega

end Counting

/-- **A get goes on as long as slots of its key are retired under its hands**, and no longer: in every
history each round but the last one is lost to a retirement of its own, and a round that finds its slot not
retired is the last one. -/
theorem rounds_of_history {events during : List (Event κ α)} {first : Event κ α}
    (history : History events held system) (getting : Getting events thread key first during) :
    Rounds thread key (first.before.stack (.caller thread)) first during := by
  rcases getting with ⟨⟨earlier, later, rfl⟩, begins, pending⟩
  rcases history.front with ⟨held, system, reached⟩
  rcases split_of_history reached begins pending with ⟨lost, last, whole, all, round⟩
  have starts : first.startsRound thread (first.before.stack (.caller thread)).length = true := by
    rw [Event.startsRound, stack_of_get (reached.happens first (by simp)) begins, begins]
    simp [Move.party]
  have counts := rounds_flatten all
  have total : rounds thread (first.before.stack (.caller thread)).length (first :: during)
      = lost.length + 1 := by
    rw [rounds, List.countP_cons, if_pos starts, ← rounds, whole, rounds_append, counts.1,
      round.rounds_eq_zero, Nat.add_zero]
  refine ⟨⟨lost, last, system, whole, all, round, total⟩, ?_, ?_⟩
  · rw [total, whole, retirements_append]
    exact Nat.succ_le_succ (Nat.le_trans counts.2 (Nat.le_add_right _ _))
  · rintro before lock after slot rfl own doing usable
    rw [← List.cons_append, ← List.append_assoc] at reached
    have settles := settles_of_history reached own doing usable fun event mem =>
      pending event (List.mem_append_right _ (List.mem_cons_of_mem _ mem))
    have none := settles.rounds_eq_zero
    rw [rounds, List.countP_cons, Nat.add_eq_zero_iff] at none
    exact ⟨none.1, system, settles⟩

/-- Two purges of thread 2 come between the look-ups of thread 1 and its locks. In the third round thread 1
builds the object of key 7, for which it gets key 8 first. -/
def chased : List (Instant × Move Nat Unit) :=
  [.begin 1 (.get 7), .proceed 1, .proceed 1, .begin 2 .purge, .proceed 2, .proceed 2, .proceed 1,
    .proceed 2, .proceed 2, .proceed 2, .proceed 2, .proceed 2, .proceed 1, .proceed 1,
    .begin 2 .purge, .proceed 2, .proceed 2, .proceed 2, .proceed 1, .proceed 2, .proceed 1,
    .proceed 1, .proceed 1, .begin 1 (.get 8), .proceed 1, .proceed 1, .proceed 1,
    .begin 1 (.built ()), .begin 1 (.built ())].map (0, ·)

theorem rounds_of_chased :
    let events := trace [] (new 1 fun _ => 0) chased
    rounds 1 0 events = 3 ∧ retirements 7 events = 2 ∧
      ∃ first during, events = first :: during ∧ Getting events 1 7 first during ∧
        Rounds 1 7 [] first during := by
  intro events
  have getting : Getting events 1 7 (events.get ⟨0, by decide⟩) (events.drop 1) :=
    ⟨⟨[], [], rfl⟩, rfl, by decide⟩
  exact ⟨by decide, by decide, _, _, rfl, getting,
    rounds_of_history (history_follow 1 (fun _ => 0) chased) getting⟩

end RegistrySystem

end Coordination
