import Coordination.Proofs.Registry.Retirement

/-!
# The locks of slots

A thread holds the lock of a slot between its steps only while it builds an object for the slot. All
other uses of a lock are over with the step that takes it.
-/

namespace Coordination.RegistrySystem

variable {κ α : Type} [DecidableEq κ]

/-- Who holds the lock of a slot builds for it. -/
def Locked (registry : Registry κ α) (frames : Party → List (Activity κ)) : Prop :=
  ∀ slot party, (registry.slots.get slot).holder = some party →
    ∃ key, .building key slot ∈ frames party

section Changing

variable {registry after : Registry κ α} {frames next : Party → List (Activity κ)}
  {party owner : Party} {before following : List (Activity κ)} {gain : Option (Reference κ)}
  {slot : SlotId}

/-- A lock is held from the beginning of the building to its end. -/
theorem Change.holder_or_locks (change : Change registry party before after following gain)
    (holds : (after.slots.get slot).holder = some owner) :
    (registry.slots.get slot).holder = some owner ∨
      owner = party ∧ ∃ key, .building key slot ∈ following := by
  have elsewhere {place : SlotId} (change : Slot → Slot)
      (holds : ((registry.modifySlot place change).slots.get slot).holder = some owner)
      (keeps : ∀ other, (change other).holder = some owner → other.holder = some owner) :
      (registry.slots.get slot).holder = some owner := by
    rw [Registry.get_modifySlot] at holds
    split at holds
    · rename_i same
      exact same ▸ keeps _ holds
    · exact holds
  cases change with
  | publish key place content stack =>
      exact Or.inl (elsewhere (fun place => { place with target := _, holder := none }) holds
        (by rintro _ ⟨⟩))
  | fail key place stack => exact Or.inl (elsewhere _ holds (by rintro _ ⟨⟩))
  | retire shard key left removed stack dead => exact Or.inl (elsewhere _ holds fun _ same => same)
  | @lock key place stack unlocked usable dead =>
      rw [Registry.get_modifySlot] at holds
      split at holds
      · rename_i same
        obtain rfl := Option.some.inj holds
        exact Or.inr ⟨rfl, key, same ▸ List.mem_cons_self⟩
      · exact Or.inl holds
  | @insert key stack free =>
      cases found : registry.find key with
      | some place =>
          rw [Registry.insert_of_find_eq_some found] at holds
          exact Or.inl holds
      | none =>
          rw [Registry.insert_of_find_eq_none found, Table.get_set] at holds
          split at holds
          · cases holds
          · exact Or.inl holds
  | _ => exact Or.inl holds

/-- A party that ends the building gives the lock back. -/
theorem Change.building_of_before (change : Change registry party before after following gain)
    {key : κ} (mem : .building key slot ∈ before) :
    .building key slot ∈ following ∨ (after.slots.get slot).holder = none := by
  cases change with
  | begin ready loose => exact Or.inl (List.mem_cons_of_mem _ mem)
  | turn stack loose | pass stack shard change loose =>
      rcases List.mem_cons.mp mem with rfl | mem
      · cases loose
      · exact Or.inl (List.mem_cons_of_mem _ mem)
  | finish stack loose =>
      rcases List.mem_cons.mp mem with rfl | mem
      · cases loose
      · exact Or.inl mem
  | publish name place content stack =>
      rcases List.mem_cons.mp mem with same | mem
      · cases same
        simp [Registry.publish, Registry.get_modifySlot]
      · exact Or.inl mem
  | fail name place stack =>
      rcases List.mem_cons.mp mem with same | mem
      · cases same
        simp [Registry.get_modifySlot]
      · exact Or.inl mem
  | join key stack =>
      rcases List.mem_cons.mp mem with same | mem
      · cases same
      · exact Or.inl mem
  | _ =>
      rcases List.mem_cons.mp mem with same | mem
      · cases same
      · exact Or.inl (List.mem_cons_of_mem _ mem)

theorem Locked.of_change (locked : Locked registry frames)
    (change : Change registry party (frames party) after (next party) gain)
    (others : ∀ other, party ≠ other → next other = frames other) : Locked after next := by
  intro slot owner holds
  rcases change.holder_or_locks holds with former | ⟨rfl, key, builds⟩
  · rcases locked slot owner former with ⟨key, builds⟩
    by_cases own : party = owner
    · subst own
      rcases change.building_of_before builds with still | free
      · exact ⟨key, still⟩
      · rw [free] at holds
        cases holds
    · exact ⟨key, by rw [others owner own]; exact builds⟩
  · exact ⟨key, builds⟩

end Changing

variable {held next : List (Reference κ)} {system after : RegistrySystem κ α}

theorem Locked.of_transition (locked : Locked system.registry system.stack)
    (transition : Transition system held after next) : Locked after.registry after.stack := by
  cases transition with
  | change party changes gains => exact locked.of_change changes.change changes.others
  | clone mem refers same =>
      rw [refers, funext same]
      exact locked
  | drop listed releases same =>
      rw [releases, funext same]
      exact locked
  | rest untouched same =>
      rw [untouched, funext same]
      exact locked

theorem locked_of_reachable (reachable : Reachable held system) :
    Locked system.registry system.stack := by
  induction reachable with
  | new shards shardOf => rintro slot party ⟨⟩
  | step reached performed ih =>
      exact ih.of_transition ((invariant_of_reachable reached).transition performed)

end Coordination.RegistrySystem
