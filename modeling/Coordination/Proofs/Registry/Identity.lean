import Coordination.Proofs.Registry.Soundness

/-!
# One object for every key

An object has as many references as are held (`Accounted`), so what is held lives. Together with
`Sound.home` this says that all references that are held for one key point to one object, the target
of the slot of that key.
-/

namespace Coordination.RegistrySystem

variable {κ α : Type}

/-- The references to the objects are those that are held. -/
structure Accounted (registry : Registry κ α) (held : List (Reference κ)) : Prop where
  counts : ∀ id, registry.references id = held.countP (·.object = id)
  labels : ∀ row ∈ held, ∃ object, registry.objects[row.object]? = some object ∧
    object.key = row.key

namespace Accounted

variable {registry after : Registry κ α} {held : List (Reference κ)}

theorem keep (accounted : Accounted registry held) (same : after.objects = registry.objects) :
    Accounted after held := by
  refine ⟨fun id => ?_, fun row mem => ?_⟩
  · rw [Registry.references, same]
    exact accounted.counts id
  · rw [same]
    exact accounted.labels row mem

theorem alive (accounted : Accounted registry held) {row : Reference κ} (mem : row ∈ held) :
    0 < registry.references row.object := by
  rw [accounted.counts, List.countP_pos_iff]
  exact ⟨row, mem, by simp⟩

theorem labels_modifyReferences (accounted : Accounted registry held) (id : ObjectId)
    (change : Nat → Nat) {row : Reference κ} (mem : row ∈ held) :
    ∃ object, (registry.modifyReferences id change).objects[row.object]? = some object ∧
      object.key = row.key := by
  rcases accounted.labels row mem with ⟨object, listed, label⟩
  simp only [Registry.modifyReferences, List.getElem?_modify, listed, Option.map_eq_map,
    Option.map_some]
  refine ⟨_, rfl, ?_⟩
  split <;> exact label

theorem refer (accounted : Accounted registry held) (row : Reference κ) {object : Object κ α}
    (listed : registry.objects[row.object]? = some object) (label : object.key = row.key) :
    Accounted (registry.refer row.object) (held ++ [row]) := by
  have short : row.object < registry.objects.length := (List.getElem?_eq_some_iff.mp listed).1
  refine ⟨fun id => ?_, fun other mem => ?_⟩
  · rw [Registry.refer, Registry.references_modifyReferences, List.countP_append,
      ← accounted.counts id]
    by_cases own : row.object = id
    · rw [own] at short
      simp [own, short]
    · simp [own]
  · rcases List.mem_append.mp mem with mem | new
    · exact accounted.labels_modifyReferences _ _ mem
    · rw [List.mem_singleton.mp new, Registry.refer]
      simp only [Registry.modifyReferences, List.getElem?_modify, listed, Option.map_eq_map,
        Option.map_some]
      exact ⟨_, rfl, label⟩

theorem release (accounted : Accounted registry held) {id : ObjectId}
    (listed : ∃ row ∈ held, row.object = id) :
    Accounted (registry.release id) (held.eraseP (·.object = id)) := by
  refine ⟨fun other => ?_, fun row mem => ?_⟩
  · rcases listed with ⟨row, mem, own⟩
    rcases List.exists_of_eraseP (p := fun row : Reference κ => row.object = id) mem
      (decide_eq_true own) with ⟨dropped, before, rest, _, same, split, erased⟩
    replace same : dropped.object = id := of_decide_eq_true same
    have short : id < registry.objects.length := by
      rcases accounted.labels row mem with ⟨object, listed, _⟩
      exact own ▸ (List.getElem?_eq_some_iff.mp listed).1
    have counts := accounted.counts other
    rw [split, List.countP_append, List.countP_cons, same] at counts
    rw [Registry.release, Registry.references_modifyReferences, erased, List.countP_append, counts]
    by_cases mine : id = other
    · simp only [mine ▸ short, mine, decide_true, if_true, and_self]
      omega
    · simp [mine]
  · exact accounted.labels_modifyReferences _ _ (List.mem_of_mem_eraseP mem)

theorem publish (accounted : Accounted registry held) (key : κ) (slot : SlotId) (content : α) :
    Accounted (registry.publish key slot content).1
      (held ++ [⟨key, (registry.publish key slot content).2⟩]) := by
  have objects : (registry.publish key slot content).1.objects
      = registry.objects ++ [{ key, content, references := 1 }] := rfl
  have new : (registry.publish key slot content).2 = registry.objects.length := rfl
  refine ⟨fun id => ?_, fun row mem => ?_⟩
  · rw [List.countP_append, ← accounted.counts id, new, Registry.references, Registry.references,
      objects]
    rcases Nat.lt_trichotomy id registry.objects.length with short | same | long
    · rw [List.getElem?_append_left short]
      simp [Nat.ne_of_gt short]
    · subst same
      simp
    · rw [List.getElem?_eq_none (Nat.le_of_lt long),
        List.getElem?_eq_none (by rw [List.length_append]; exact long)]
      simp [Nat.ne_of_lt long]
  · rw [objects]
    rcases List.mem_append.mp mem with mem | fresh
    · rcases accounted.labels row mem with ⟨object, listed, label⟩
      have short := (List.getElem?_eq_some_iff.mp listed).1
      exact ⟨object, by rw [List.getElem?_append_left short]; exact listed, label⟩
    · rw [List.mem_singleton.mp fresh, new]
      exact ⟨_, List.getElem?_concat_length, rfl⟩

variable [DecidableEq κ]

/-- What a thread gets when it enters the slot of a live object is accounted for. -/
theorem join (accounted : Accounted registry held) {frames : Party → List (Activity κ)}
    (sound : Sound registry frames) {party : Party} {key : κ} {slot : SlotId} {object : ObjectId}
    (doing : .entering key slot ∈ frames party)
    (usable : (registry.slots.get slot).retired = false)
    (alive : registry.live? (registry.slots.get slot) = some object) :
    Accounted (registry.refer object) (held ++ [⟨key, object⟩]) := by
  rcases Registry.live?_eq_some_iff.mp alive with ⟨target, _⟩
  have found : registry.find key = some slot :=
    (sound.fits party _ doing).2.resolve_right (by rw [usable]; exact Bool.false_ne_true)
  have listed := List.getElem?_eq_getElem (sound.sound.targets slot object target)
  have label := sound.sound.labels key slot object _ found target listed
  exact accounted.refer ⟨key, object⟩ listed label

/-- Every change of an activity accounts for what it gains. -/
theorem of_change (accounted : Accounted registry held) {frames : Party → List (Activity κ)}
    (sound : Sound registry frames) {party : Party} {next : List (Activity κ)}
    {gain : Option (Reference κ)}
    (change : Change registry party (frames party) after next gain) :
    Accounted after (held ++ gain.toList) := by
  have still {after : Registry κ α} (same : after.objects = registry.objects) :
      Accounted after (held ++ []) := by
    rw [List.append_nil]
    exact accounted.keep same
  generalize doing : frames party = before at change
  cases change with
  | publish key slot content => exact accounted.publish key slot content
  | @join key slot _ stack usable alive =>
      have enters : .entering key slot ∈ frames party := by
        rw [doing]
        exact List.mem_cons_self
      exact accounted.join sound enters usable alive
  | insert stack free =>
      refine still ?_
      cases found : registry.find _ with
      | some slot => rw [Registry.insert_of_find_eq_some found]
      | none => rw [Registry.insert_of_find_eq_none found]
  | _ => exact still rfl

end Accounted

variable [DecidableEq κ]

/-- A sound registry whose references are accounted for. -/
structure Invariant (held : List (Reference κ)) (system : RegistrySystem κ α) : Prop where
  reaping : Reaping system
  sound : Sound system.registry system.stack
  accounted : Accounted system.registry held

/-- A change of the references that does not bring an object to life keeps a registry sound. -/
theorem Sound.modifyReferences {registry after : Registry κ α}
    {frames next : Party → List (Activity κ)} (sound : Sound registry frames) {id : ObjectId}
    {change : Nat → Nat} (changed : after = registry.modifyReferences id change)
    (same : ∀ party, next party = frames party)
    (keepsDead : registry.references id = 0 → change 0 = 0) : Sound after next := by
  obtain rfl : next = frames := funext same
  subst changed
  refine ⟨sound.sound.modifyReferences keepsDead, ?_, sound.nested, sound.once⟩
  intro party activity mem
  exact (sound.fits party activity mem).modifyReferences keepsDead

theorem Invariant.sound_of_transition {held next : List (Reference κ)}
    {system after : RegistrySystem κ α} (invariant : Invariant held system)
    (transition : Transition system held after next) : Sound after.registry after.stack := by
  have sound := invariant.sound
  cases transition with
  | change party changes gains => exact sound.of_change changes.change changes.others
  | clone mem refers same =>
      have lives := invariant.accounted.alive mem
      exact sound.modifyReferences refers same fun none => absurd none (Nat.ne_of_gt lives)
  | drop listed releases same => exact sound.modifyReferences releases same fun _ => rfl
  | rest untouched same =>
      obtain same : after.stack = system.stack := funext same
      rw [untouched, same]
      exact sound

theorem Invariant.accounted_of_transition {held next : List (Reference κ)}
    {system after : RegistrySystem κ α} (invariant : Invariant held system)
    (transition : Transition system held after next) : Accounted after.registry next := by
  have accounted := invariant.accounted
  cases transition with
  | change party changes gains =>
      rw [gains]
      exact accounted.of_change invariant.sound changes.change
  | clone mem refers same =>
      rcases accounted.labels _ mem with ⟨object, listed, label⟩
      rw [refers]
      exact accounted.refer _ listed label
  | drop listed releases same =>
      rw [releases]
      exact accounted.release listed
  | rest untouched same =>
      rw [untouched]
      exact accounted

theorem invariant_of_reachable {held : List (Reference κ)} {system : RegistrySystem κ α}
    (reachable : Reachable held system) : Invariant held system := by
  induction reachable with
  | new shards shardOf =>
      have empty : Registry.Sound (new shards shardOf : RegistrySystem κ α).registry := by
        refine ⟨List.nodup_nil, List.nodup_nil, ?_, ?_, ?_, ?_⟩
        · rintro entry ⟨⟩
        · rintro slot id ⟨⟩
        · rintro key slot id object ⟨⟩
        · rintro id object ⟨⟩
      refine ⟨fun _ => rfl, ⟨empty, ?_, ?_, fun _ => List.nodup_nil⟩, ⟨fun _ => rfl, ?_⟩⟩
      · rintro party activity ⟨⟩
      · rintro party activity ⟨⟩
      · rintro row ⟨⟩
  | step reached performed ih =>
      have transition := perform_transition ih.reaping (fun _ => ih.accounted.alive) performed
      exact ⟨reaping_of_perform ih.reaping performed, ih.sound_of_transition transition,
        ih.accounted_of_transition transition⟩

/-- Whether an object is built for a key. -/
def Activity.builds (key : κ) : Activity κ → Bool
  | .building other _ => other = key
  | _ => false

/-- Every key has at most one object at a time. -/
structure Identity (held : List (Reference κ)) (system : RegistrySystem κ α) :
    Prop where
  /-- All references that are held for one key point to one object. -/
  same : ∀ first ∈ held, ∀ second ∈ held, first.key = second.key → first.object = second.object
  apart : ∀ first ∈ held, ∀ second ∈ held, first.key ≠ second.key → first.object ≠ second.object
  /-- An object lives as long as a reference to it is held. -/
  alive : ∀ id, 0 < system.registry.references id ↔ ∃ row ∈ held, row.object = id
  /-- What is held for a key is the target of the slot of that key, which is not retired. -/
  home : ∀ row ∈ held, ∃ slot, system.registry.find row.key = some slot ∧
    (system.registry.slots.get slot).target = some row.object ∧
    (system.registry.slots.get slot).retired = false
  /-- No party builds for a key twice at a time. -/
  once : ∀ key party, (system.stack party).countP (·.builds key) ≤ 1
  /-- No two parties build for a key at a time. -/
  alone : ∀ key first second, (system.stack first).any (·.builds key) = true →
    (system.stack second).any (·.builds key) = true → first = second

/-- What is held for a key is the target of the slot of the key. -/
theorem Invariant.home {held : List (Reference κ)} {system : RegistrySystem κ α}
    (invariant : Invariant held system) {row : Reference κ} (mem : row ∈ held) :
    ∃ slot, system.registry.find row.key = some slot ∧
      (system.registry.slots.get slot).target = some row.object ∧
      (system.registry.slots.get slot).retired = false := by
  rcases invariant.accounted.labels row mem with ⟨object, listed, label⟩
  have lives := invariant.accounted.alive mem
  rw [Registry.references_of_listed listed] at lives
  rw [← label]
  exact invariant.sound.sound.home row.object object listed lives

/-- An object is built for a key by a party that holds the lock of the slot of the key. -/
theorem Sound.building {registry : Registry κ α} {frames : Party → List (Activity κ)}
    (sound : Sound registry frames) {party : Party} {key : κ}
    (builds : (frames party).any (·.builds key) = true) :
    ∃ slot, registry.find key = some slot ∧ (registry.slots.get slot).holder = some party := by
  rw [List.any_eq_true] at builds
  rcases builds with ⟨activity, mem, builds⟩
  have fits := sound.fits party activity mem
  cases activity with
  | building other slot =>
      obtain rfl : other = key := of_decide_eq_true builds
      exact ⟨slot, fits.1, fits.2.2.1⟩
  | _ => cases builds

theorem countP_le_one_of_nodup_filterMap {β : Type} {label : β → Option SlotId} {names : β → Bool}
    {list : List β} (distinct : (list.filterMap label).Nodup) (slot : SlotId)
    (same : ∀ member ∈ list, names member = true → label member = some slot) :
    list.countP names ≤ 1 := by
  induction list with
  | nil => exact Nat.zero_le 1
  | cons first rest ih =>
      have others := fun member mem => same member (List.mem_cons_of_mem first mem)
      cases own : names first with
      | false =>
          rw [List.countP_cons_of_neg (by simp [own])]
          exact ih (distinct.sublist ((List.sublist_cons_self first rest).filterMap label)) others
      | true =>
          rw [List.filterMap_cons_some (same first List.mem_cons_self own), List.nodup_cons] at distinct
          have alone : rest.countP names = 0 := by
            refine List.countP_eq_zero.mpr fun member mem named => ?_
            exact distinct.1 (List.mem_filterMap.mpr ⟨member, mem, others member mem named⟩)
          exact Nat.le_of_eq ((List.countP_cons_of_pos own).trans (congrArg (· + 1) alone))

/-- A party builds for a key at most once at a time. -/
theorem Sound.countP_builds_le {registry : Registry κ α} {frames : Party → List (Activity κ)}
    (sound : Sound registry frames) (key : κ) (party : Party) :
    (frames party).countP (·.builds key) ≤ 1 := by
  rcases Nat.eq_zero_or_pos ((frames party).countP (·.builds key)) with none | some
  · rw [none]
    exact Nat.zero_le 1
  · rcases sound.building (List.any_eq_true.mpr (List.countP_pos_iff.mp some)) with ⟨slot, known, _⟩
    refine countP_le_one_of_nodup_filterMap (sound.once party) slot ?_
    intro activity mem builds
    have fits := sound.fits party activity mem
    cases activity with
    | building other place =>
        obtain rfl : other = key := of_decide_eq_true builds
        exact fits.1.symm.trans known
    | _ => cases builds

/-- Every key has at most one object at a time, in whatever order the threads take their steps. -/
theorem identity_of_reachable {held : List (Reference κ)} {system : RegistrySystem κ α}
    (reachable : Reachable held system) : Identity held system := by
  have invariant := invariant_of_reachable reachable
  have sound := invariant.sound
  refine ⟨?_, ?_, ?_, fun row mem => invariant.home mem, sound.countP_builds_le, ?_⟩
  · intro first mem second other same
    rcases invariant.home mem with ⟨slot, found, target, _⟩
    rcases invariant.home other with ⟨place, known, aim, _⟩
    rw [same, known] at found
    obtain rfl := Option.some.inj found
    exact Option.some.inj (target.symm.trans aim)
  · intro first mem second other apart same
    rcases invariant.accounted.labels first mem with ⟨object, listed, label⟩
    rcases invariant.accounted.labels second other with ⟨another, known, name⟩
    rw [same, known] at listed
    obtain rfl := Option.some.inj listed
    exact apart (label.symm.trans name)
  · intro id
    rw [invariant.accounted.counts, List.countP_pos_iff]
    simp
  · intro key first second builds also
    rcases sound.building builds with ⟨slot, found, holder⟩
    rcases sound.building also with ⟨place, known, owner⟩
    rw [known] at found
    obtain rfl := Option.some.inj found
    exact Option.some.inj (holder.symm.trans owner)

/-- A purge that comes between another thread's look at the map and its way into the slot. Thread 0
drops the first object of key 7 there, thread 2 purges, and thread 1 finds the slot retired and builds
again; a factory for key 8 panics, and the object of key 7 is got and cloned by thread 0. -/
def overtaken : List (Instant × Move Nat Unit) :=
  [.begin 0 (.get 7), .proceed 0, .proceed 0, .proceed 0, .begin 0 (.built ()),
    .begin 1 (.get 7), .proceed 1, .begin 0 (.release 0),
    .begin 2 .purge, .proceed 2, .proceed 2, .proceed 1, .proceed 2, .proceed 2,
    .proceed 1, .proceed 1, .proceed 1, .begin 1 (.get 8), .proceed 1, .proceed 1, .proceed 1,
    .begin 1 .failed, .begin 1 (.built ()),
    .begin 0 (.get 7), .proceed 0, .proceed 0, .begin 0 (.refer 1)].map (0, ·)

theorem identity_of_overtaken :
    (follow [] (new 1 fun _ => 0) overtaken).1 = [⟨7, 1⟩, ⟨7, 1⟩, ⟨7, 1⟩] ∧
      Identity (follow [] (new 1 fun _ => 0) overtaken).1
        (follow [] (new 1 fun _ => 0) overtaken).2 :=
  ⟨by decide, identity_of_reachable (.follow (.new 1 fun _ => 0) overtaken)⟩

end Coordination.RegistrySystem
