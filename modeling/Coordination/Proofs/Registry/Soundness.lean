import Coordination.Proofs.Registry.Transition
import Mathlib.Data.List.Nodup

/-!
# Sound registries

A live object is the target of the slot that the map holds for its key, and that slot is not retired
(`Sound.home`). This is kept because of what the parties at work rely on (`Activity.Fits`). Who waits
to enter a slot relies on the map holding that slot, or on finding it retired. Who builds an object
holds the lock of a slot that is in the map, not retired, and without a live object. Who purges a
shard holds its latch, so that the entries that it has still to look at stay where they are, and the
slot of a key that it is about to unlink stays retired.
-/

namespace Coordination

namespace Registry

variable {κ α : Type}

section References

variable {registry : Registry κ α}

theorem references_modifyReferences (registry : Registry κ α) (id other : ObjectId)
    (change : Nat → Nat) :
    (registry.modifyReferences id change).references other
      = if id = other ∧ id < registry.objects.length then change (registry.references other)
        else registry.references other := by
  simp only [references, modifyReferences, List.getElem?_modify]
  by_cases same : id = other
  · subst same
    by_cases short : id < registry.objects.length
    · simp [short]
    · simp [short]
  · simp [same]

theorem references_of_listed {id : ObjectId} {object : Object κ α}
    (listed : registry.objects[id]? = some object) : registry.references id = object.references := by
  simp [references, listed]

theorem live?_eq_some_iff {slot : Slot} {id : ObjectId} :
    registry.live? slot = some id ↔ slot.target = some id ∧ 0 < registry.references id := by
  simp [live?, Option.filter_eq_some_iff]

theorem live?_eq_none_iff {slot : Slot} :
    registry.live? slot = none ↔ ∀ id, slot.target = some id → registry.references id = 0 := by
  simp [live?, Option.filter_eq_none_iff]

end References

section Entries

variable [DecidableEq κ] {registry : Registry κ α} {key : κ} {slot : SlotId}

theorem lookup_cons_eq {β : Type} (stored other : κ) (value : β) (rest : List (κ × β)) :
    ((stored, value) :: rest).lookup other
      = if stored = other then some value else rest.lookup other := by
  rw [List.lookup_cons]
  by_cases same : stored = other
  · subst same
    rw [beq_self_eq_true, if_pos rfl]
  · rw [beq_eq_false_iff_ne.mpr (Ne.symm same), if_neg same]

theorem mem_entries_of_find (found : registry.find key = some slot) :
    (key, slot) ∈ registry.entries := by
  rw [find, List.lookup_eq_some_iff] at found
  rcases found with ⟨before, rest, same, _⟩
  simp [same]

theorem find_of_mem_entries (keys : (registry.entries.map (·.1)).Nodup)
    (mem : (key, slot) ∈ registry.entries) : registry.find key = some slot := by
  rcases List.append_of_mem mem with ⟨before, rest, same⟩
  rw [find, List.lookup_eq_some_iff]
  refine ⟨before, rest, same, ?_⟩
  intro entry earlier
  rw [same, List.map_append, List.nodup_append] at keys
  rw [bne_iff_ne]
  exact (keys.2.2 _ (List.mem_map_of_mem earlier) _ List.mem_cons_self).symm

theorem not_mem_of_find_eq_none (absent : registry.find key = none) :
    key ∉ registry.entries.map (·.1) := by
  rw [find, List.lookup_eq_none_iff] at absent
  intro mem
  rcases List.mem_map.mp mem with ⟨entry, listed, rfl⟩
  simpa using absent entry listed

theorem insert_of_find_eq_some (found : registry.find key = some slot) :
    registry.insert key = (registry, slot) := by
  rw [insert, found]

theorem insert_of_find_eq_none (absent : registry.find key = none) :
    registry.insert key
      = ({ registry with
            entries := registry.entries ++ [(key, registry.nextSlot)],
            slots := registry.slots.set registry.nextSlot {},
            nextSlot := registry.nextSlot + 1 },
          registry.nextSlot) := by
  rw [insert, absent]

theorem find_insert (registry : Registry κ α) (key other : κ) :
    (registry.insert key).1.find other
      = (registry.find other).or (if key = other then some (registry.insert key).2 else none) := by
  cases found : registry.find key with
  | some slot =>
      rw [insert_of_find_eq_some found]
      split
      · rename_i same
        rw [← same, found, Option.some_or]
      · rw [Option.or_none]
  | none =>
      rw [insert_of_find_eq_none found, find, find, List.lookup_append]
      rw [lookup_cons_eq, List.lookup_nil]

theorem find_unlink (registry : Registry κ α) (key other : κ) :
    (registry.unlink key).find other = if key = other then none else registry.find other := by
  simp only [find, unlink]
  induction registry.entries with
  | nil => simp
  | cons entry rest ih =>
      rcases entry with ⟨stored, slot⟩
      rw [lookup_cons_eq, List.filter_cons]
      by_cases gone : stored = key
      · subst gone
        simp only [ne_eq, not_true_eq_false, decide_false, Bool.false_eq_true, if_false]
        rw [ih]
        split <;> rfl
      · simp only [ne_eq, gone, not_false_eq_true, decide_true, if_true]
        rw [lookup_cons_eq, ih]
        by_cases same : key = other
        · subst same
          rw [if_neg gone, if_pos rfl, if_pos rfl]
        · rw [if_neg same, if_neg same]

end Entries

/-- The map and the slots of a registry fit its objects. -/
structure Sound [DecidableEq κ] (registry : Registry κ α) : Prop where
  keys : (registry.entries.map (·.1)).Nodup
  places : (registry.entries.map (·.2)).Nodup
  fresh : ∀ entry ∈ registry.entries, entry.2 < registry.nextSlot
  targets : ∀ slot id, (registry.slots.get slot).target = some id → id < registry.objects.length
  labels : ∀ key slot id object, registry.find key = some slot →
    (registry.slots.get slot).target = some id → registry.objects[id]? = some object →
    object.key = key
  /-- A live object is the target of the slot of its key, and that slot is not retired. -/
  home : ∀ id object, registry.objects[id]? = some object → 0 < object.references →
    ∃ slot, registry.find object.key = some slot ∧
      (registry.slots.get slot).target = some id ∧ (registry.slots.get slot).retired = false

namespace Sound

variable [DecidableEq κ] {registry : Registry κ α}

theorem modifySlot (sound : registry.Sound) {slot : SlotId} {change : Slot → Slot}
    (keepsTarget : ∀ place, (change place).target = place.target)
    (keepsRetired : registry.live? (registry.slots.get slot) = none ∨
      ∀ place, (change place).retired = place.retired) : (registry.modifySlot slot change).Sound := by
  have at_slot (other : SlotId) : (registry.modifySlot slot change).slots.get other
      = if slot = other then change (registry.slots.get slot) else registry.slots.get other := by
    simp only [Registry.modifySlot, Table.modify, Table.get_set]
  have same_target (other : SlotId) : ((registry.modifySlot slot change).slots.get other).target
      = (registry.slots.get other).target := by
    rw [at_slot]
    split
    · rename_i same
      rw [keepsTarget, same]
    · rfl
  refine ⟨sound.keys, sound.places, sound.fresh, ?_, ?_, ?_⟩
  · intro other id target
    exact sound.targets other id ((same_target other).symm.trans target)
  · intro key other id object found target listed
    exact sound.labels key other id object found ((same_target other).symm.trans target) listed
  · intro id object listed alive
    replace listed : registry.objects[id]? = some object := listed
    rcases sound.home id object listed alive with ⟨place, found, target, usable⟩
    refine ⟨place, found, ?_⟩
    rw [at_slot]
    split
    · rename_i same
      subst same
      rcases keepsRetired with dead | keeps
      · have none := live?_eq_none_iff.mp dead id target
        rw [references_of_listed listed] at none
        omega
      · rw [keepsTarget, keeps]
        exact ⟨target, usable⟩
    · exact ⟨target, usable⟩

/-- A slot belongs to one key. -/
theorem key_eq (sound : registry.Sound) {key other : κ} {slot : SlotId}
    (found : registry.find key = some slot) (known : registry.find other = some slot) :
    key = other := by
  have once := List.inj_on_of_nodup_map sound.places (mem_entries_of_find found)
    (mem_entries_of_find known) rfl
  exact congrArg Prod.fst once

theorem modifyLatch (sound : registry.Sound) (shard : Nat) (change : Latch → Latch) :
    (registry.modifyLatch shard change).Sound :=
  ⟨sound.keys, sound.places, sound.fresh, sound.targets, sound.labels, sound.home⟩

theorem modifyReferences (sound : registry.Sound) {id : ObjectId} {change : Nat → Nat}
    (keepsDead : registry.references id = 0 → change 0 = 0) :
    (registry.modifyReferences id change).Sound := by
  have formerly {other : ObjectId} {object : Object κ α}
      (listed : (registry.modifyReferences id change).objects[other]? = some object) :
      ∃ former, registry.objects[other]? = some former ∧
        (if id = other then { former with references := change former.references } else former)
          = object ∧ object.key = former.key := by
    simp only [Registry.modifyReferences, List.getElem?_modify, Option.map_eq_map,
      Option.map_eq_some_iff] at listed
    rcases listed with ⟨former, listed, same⟩
    refine ⟨former, listed, same, ?_⟩
    rw [← same]
    split <;> rfl
  refine ⟨sound.keys, sound.places, sound.fresh, ?_, ?_, ?_⟩
  · intro slot target listed
    rw [Registry.modifyReferences, List.length_modify]
    exact sound.targets slot target listed
  · intro key slot other object found target listed
    rcases formerly listed with ⟨former, listed, _, key⟩
    rw [key]
    exact sound.labels _ slot other former found target listed
  · intro other object listed alive
    rcases formerly listed with ⟨former, listed, same, key⟩
    have lived : 0 < former.references := by
      split at same
      · rename_i own
        subst own
        rw [references_of_listed listed] at keepsDead
        rw [← same] at alive
        rcases Nat.eq_zero_or_pos former.references with none | some
        · rw [none] at alive
          exact absurd alive (by simp [keepsDead none])
        · exact some
      · rw [← same] at alive
        exact alive
    rw [key]
    exact sound.home other former listed lived

theorem insert (sound : registry.Sound) (key : κ) : (registry.insert key).1.Sound := by
  cases found : registry.find key with
  | some slot =>
      rw [insert_of_find_eq_some found]
      exact sound
  | none =>
      have absent := not_mem_of_find_eq_none found
      have unused : registry.nextSlot ∉ registry.entries.map (·.2) := by
        intro mem
        rcases List.mem_map.mp mem with ⟨entry, listed, same⟩
        exact Nat.ne_of_lt (sound.fresh entry listed) same
      have found_mono (other : κ) (slot : SlotId) (known : registry.find other = some slot) :
          (registry.insert key).1.find other = some slot := by
        rw [find_insert, known, Option.some_or]
      rw [insert_of_find_eq_none found] at found_mono ⊢
      refine ⟨?_, ?_, ?_, ?_, ?_, ?_⟩
      · rw [List.map_append, List.nodup_append]
        refine ⟨sound.keys, by simp, ?_⟩
        intro stored mem other otherMem same
        rw [same, List.mem_singleton.mp otherMem] at mem
        exact absent mem
      · rw [List.map_append, List.nodup_append]
        refine ⟨sound.places, by simp, ?_⟩
        intro stored mem other otherMem same
        rw [same, List.mem_singleton.mp otherMem] at mem
        exact unused mem
      · intro entry mem
        rcases List.mem_append.mp mem with listed | new
        · exact Nat.lt_succ_of_lt (sound.fresh entry listed)
        · rw [List.mem_singleton.mp new]
          exact Nat.lt_succ_self _
      · intro slot id target
        rw [Table.get_set] at target
        split at target
        · cases target
        · exact sound.targets slot id target
      · intro other slot id object known target listed
        rw [Table.get_set] at target
        split at target
        · cases target
        · rename_i apart
          rw [← insert_of_find_eq_none found, find_insert, insert_of_find_eq_none found] at known
          cases former : registry.find other with
          | some place =>
              rw [former, Option.some_or] at known
              obtain rfl := Option.some.inj known
              exact sound.labels other place id object former target listed
          | none =>
              rw [former, Option.none_or] at known
              split at known
              · exact absurd (Option.some.inj known) apart
              · cases known
      · intro id object listed alive
        rcases sound.home id object listed alive with ⟨slot, known, target, usable⟩
        refine ⟨slot, found_mono object.key slot known, ?_⟩
        rw [Table.get_set, if_neg (Nat.ne_of_gt (sound.fresh _ (mem_entries_of_find known)))]
        exact ⟨target, usable⟩

theorem unlink (sound : registry.Sound) {key : κ}
    (retired : ∀ slot, registry.find key = some slot → (registry.slots.get slot).retired = true) :
    (registry.unlink key).Sound := by
  refine ⟨sound.keys.sublist (List.filter_sublist.map _),
    sound.places.sublist (List.filter_sublist.map _), ?_, sound.targets, ?_, ?_⟩
  · intro entry mem
    exact sound.fresh entry (List.mem_filter.mp mem).1
  · intro other slot id object known
    rw [find_unlink] at known
    split at known
    · cases known
    · exact sound.labels other slot id object known
  · intro id object listed alive
    rcases sound.home id object listed alive with ⟨slot, known, target, usable⟩
    refine ⟨slot, ?_, target, usable⟩
    rw [find_unlink, if_neg]
    · exact known
    · rintro rfl
      exact absurd (retired slot known) (by rw [usable]; exact Bool.false_ne_true)

theorem publish (sound : registry.Sound) {key : κ} {slot : SlotId} (content : α)
    (found : registry.find key = some slot) (usable : (registry.slots.get slot).retired = false)
    (dead : registry.live? (registry.slots.get slot) = none) :
    (registry.publish key slot content).1.Sound := by
  have at_slot (other : SlotId) : (registry.publish key slot content).1.slots.get other
      = if slot = other then
          { registry.slots.get slot with target := some registry.objects.length, holder := none }
        else registry.slots.get other := by
    simp only [Registry.publish, Registry.modifySlot, Table.modify, Table.get_set]
  have objects : (registry.publish key slot content).1.objects
      = registry.objects ++ [{ key, content, references := 1 }] := rfl
  refine ⟨sound.keys, sound.places, sound.fresh, ?_, ?_, ?_⟩
  · intro other id target
    rw [at_slot] at target
    rw [objects, List.length_append, List.length_singleton]
    split at target
    · cases target
      exact Nat.lt_succ_self _
    · exact Nat.lt_succ_of_lt (sound.targets other id target)
  · intro other place id object known target listed
    replace known : registry.find other = some place := known
    rw [at_slot] at target
    rw [objects] at listed
    split at target
    · rename_i same
      subst same
      cases target
      rw [List.getElem?_append_right (Nat.le_refl _), Nat.sub_self] at listed
      cases listed
      exact sound.key_eq found known
    · rw [List.getElem?_append_left (sound.targets place id target)] at listed
      exact sound.labels other place id object known target listed
  · intro id object listed alive
    rw [objects, List.getElem?_append] at listed
    split at listed
    · rcases sound.home id object listed alive with ⟨place, known, target, kept⟩
      refine ⟨place, known, ?_⟩
      rw [at_slot, if_neg]
      · exact ⟨target, kept⟩
      · rintro rfl
        have none := live?_eq_none_iff.mp dead id target
        rw [references_of_listed listed] at none
        omega
    · rw [List.getElem?_singleton] at listed
      split at listed
      · rename_i long first
        cases listed
        refine ⟨slot, found, ?_⟩
        rw [at_slot, if_pos rfl]
        refine ⟨congrArg some ?_, usable⟩
        exact Nat.le_antisymm (Nat.le_of_not_lt long) (Nat.le_of_sub_eq_zero first)
      · cases listed

end Sound

end Registry

namespace RegistrySystem

variable {κ α : Type}

/-- The slot for which an object is built. -/
def Activity.site? : Activity κ → Option SlotId
  | .building _ slot => some slot
  | _ => none

theorem site?_of_isLoose {activity : Activity κ} (loose : activity.isLoose = true) :
    activity.site? = none := by
  cases activity <;> first | rfl | cases loose

variable [DecidableEq κ]

/-- The entries that are left to look at in a shard are still in the map. -/
structure Pending (registry : Registry κ α) (shard : Nat) (left : List (κ × SlotId)) : Prop where
  distinct : (left.map (·.1)).Nodup
  listed : ∀ entry ∈ left, registry.find entry.1 = some entry.2
  inside : ∀ entry ∈ left, registry.shardOf entry.1 % registry.shards = shard

theorem Pending.tail {registry : Registry κ α} {shard : Nat} {entry : κ × SlotId}
    {left : List (κ × SlotId)} (pending : Pending registry shard (entry :: left)) :
    Pending registry shard left ∧ entry.1 ∉ left.map (·.1) := by
  have distinct := List.nodup_cons.mp pending.distinct
  refine ⟨⟨distinct.2, ?_, ?_⟩, distinct.1⟩
  · exact fun other mem => pending.listed other (List.mem_cons_of_mem entry mem)
  · exact fun other mem => pending.inside other (List.mem_cons_of_mem entry mem)

/-- What a party relies on while it is in the middle of an activity. -/
def Activity.Fits (registry : Registry κ α) (party : Party) : Activity κ → Prop
  | .entering key slot =>
      slot < registry.nextSlot ∧
        (registry.find key = some slot ∨ (registry.slots.get slot).retired = true)
  | .building key slot =>
      registry.find key = some slot ∧ (registry.slots.get slot).retired = false ∧
        (registry.slots.get slot).holder = some party ∧
        registry.live? (registry.slots.get slot) = none
  | .sweeping shard left _ =>
      registry.latches.get shard = .exclusive party ∧ Pending registry shard left
  | .unlinking key shard left _ =>
      registry.latches.get shard = .exclusive party ∧ Pending registry shard left ∧
        key ∉ left.map (·.1) ∧ registry.shardOf key % registry.shards = shard ∧
        ∀ slot, registry.find key = some slot → (registry.slots.get slot).retired = true
  | _ => True

/-- A registry with parties at work on it. Only the innermost activity of a party is anything else
than the building of an object, and a party builds for a slot at most once. -/
structure Sound (registry : Registry κ α) (frames : Party → List (Activity κ)) : Prop where
  sound : registry.Sound
  fits : ∀ party, ∀ activity ∈ frames party, activity.Fits registry party
  nested : ∀ party, ∀ activity ∈ (frames party).tail, activity.isBuilding = true
  once : ∀ party, ((frames party).filterMap Activity.site?).Nodup

namespace Activity.Fits

variable {registry : Registry κ α} {party : Party} {activity : Activity κ}

theorem of_isLoose (loose : activity.isLoose = true) : activity.Fits registry party := by
  cases activity <;> trivial

theorem modifySlot (fits : activity.Fits registry party) (slot : SlotId) (change : Slot → Slot)
    (retires : ∀ place, place.retired = true → (change place).retired = true)
    (spares : activity.site? ≠ some slot) : activity.Fits (registry.modifySlot slot change) party := by
  have at_slot (other : SlotId) : (registry.modifySlot slot change).slots.get other
      = if slot = other then change (registry.slots.get slot) else registry.slots.get other := by
    simp only [Registry.modifySlot, Table.modify, Table.get_set]
  have stays {other : SlotId} (retired : (registry.slots.get other).retired = true) :
      ((registry.modifySlot slot change).slots.get other).retired = true := by
    rw [at_slot]
    split
    · rename_i same
      subst same
      exact retires _ retired
    · exact retired
  cases activity with
  | entering key other => exact ⟨fits.1, fits.2.imp_right stays⟩
  | building key other =>
      have apart : slot ≠ other := fun same => spares (congrArg some same.symm)
      simp only [Fits, at_slot, if_neg apart]
      exact fits
  | sweeping shard left removed => exact ⟨fits.1, fits.2.distinct, fits.2.listed, fits.2.inside⟩
  | unlinking key shard left removed =>
      rcases fits with ⟨latch, ⟨distinct, listed, inside⟩, absent, own, retired⟩
      exact ⟨latch, ⟨distinct, listed, inside⟩, absent, own, fun other found =>
        stays (retired other found)⟩
  | _ => trivial

theorem modifyLatch (fits : activity.Fits registry party) {shard : Nat} {change : Latch → Latch}
    (keeps : activity.isBuilding = true ∨ registry.latches.get shard ≠ .exclusive party ∨
      change (.exclusive party) = .exclusive party) :
    activity.Fits (registry.modifyLatch shard change) party := by
  have stays {other : Nat} (sweeps : activity.isBuilding = false)
      (latch : registry.latches.get other = .exclusive party) :
      (registry.modifyLatch shard change).latches.get other = .exclusive party := by
    simp only [Registry.modifyLatch, Table.modify, Table.get_set]
    split
    · rename_i same
      subst same
      rw [sweeps] at keeps
      rw [latch]
      exact (keeps.resolve_left Bool.false_ne_true).resolve_left (absurd latch)
    · exact latch
  cases activity with
  | entering key other => exact fits
  | building key other => exact fits
  | sweeping other left removed =>
      exact ⟨stays rfl fits.1, fits.2.distinct, fits.2.listed, fits.2.inside⟩
  | unlinking key other left removed =>
      rcases fits with ⟨latch, ⟨distinct, listed, inside⟩, rest⟩
      exact ⟨stays rfl latch, ⟨distinct, listed, inside⟩, rest⟩
  | _ => trivial

/-- Objects may come or change, as long as no object comes to life at a site. -/
theorem objects {objects : List (Object κ α)} (fits : activity.Fits registry party)
    (dead : ∀ slot id, activity.site? = some slot → (registry.slots.get slot).target = some id →
      registry.references id = 0 → { registry with objects }.references id = 0) :
    activity.Fits { registry with objects } party := by
  cases activity with
  | entering key other => exact fits
  | building key other =>
      rcases fits with ⟨found, usable, holder, none⟩
      refine ⟨found, usable, holder, Registry.live?_eq_none_iff.mpr fun id target => ?_⟩
      exact dead other id rfl target (Registry.live?_eq_none_iff.mp none id target)
  | sweeping other left removed => exact ⟨fits.1, fits.2.distinct, fits.2.listed, fits.2.inside⟩
  | unlinking key other left removed =>
      rcases fits with ⟨latch, ⟨distinct, listed, inside⟩, rest⟩
      exact ⟨latch, ⟨distinct, listed, inside⟩, rest⟩
  | _ => trivial

theorem modifyReferences (fits : activity.Fits registry party) {id : ObjectId}
    {change : Nat → Nat} (keepsDead : registry.references id = 0 → change 0 = 0) :
    activity.Fits (registry.modifyReferences id change) party := by
  refine fits.objects fun slot other _ _ none => ?_
  have counts := registry.references_modifyReferences id other change
  split at counts
  · rename_i own
    rw [none] at counts
    exact counts.trans (keepsDead (own.1.symm ▸ none))
  · exact counts.trans none

theorem insert (fits : activity.Fits registry party) (sound : registry.Sound) {key : κ}
    (free : (registry.latchOf key).admitsWriter = true) :
    activity.Fits (registry.insert key).1 party := by
  cases missing : registry.find key with
  | some slot =>
      rw [Registry.insert_of_find_eq_some missing]
      exact fits
  | none =>
      have known {other : κ} {slot : SlotId} (found : registry.find other = some slot) :
          (registry.insert key).1.find other = some slot := by
        rw [Registry.find_insert, found, Option.some_or]
      have at_slot {slot : SlotId} (short : slot < registry.nextSlot) :
          (registry.insert key).1.slots.get slot = registry.slots.get slot := by
        rw [Registry.insert_of_find_eq_none missing]
        exact Table.get_set_of_ne _ _ (Nat.ne_of_gt short)
      have short {other : κ} {slot : SlotId} (found : registry.find other = some slot) :
          slot < registry.nextSlot :=
        sound.fresh _ (Registry.mem_entries_of_find found)
      have more : (registry.insert key).1.nextSlot = registry.nextSlot + 1 := by
        rw [Registry.insert_of_find_eq_none missing]
      have latches : (registry.insert key).1.latches = registry.latches := by
        rw [Registry.insert_of_find_eq_none missing]
      have shardOf : (registry.insert key).1.shardOf = registry.shardOf ∧
          (registry.insert key).1.shards = registry.shards := by
        rw [Registry.insert_of_find_eq_none missing]
        exact ⟨rfl, rfl⟩
      have stays {shard : Nat} {left : List (κ × SlotId)} (pending : Pending registry shard left) :
          Pending (registry.insert key).1 shard left := by
        refine ⟨pending.distinct, fun entry mem => known (pending.listed entry mem), ?_⟩
        rw [shardOf.1, shardOf.2]
        exact pending.inside
      cases activity with
      | entering other slot =>
          refine ⟨more ▸ Nat.lt_succ_of_lt fits.1, ?_⟩
          rw [at_slot fits.1]
          exact fits.2.imp_left known
      | building other slot =>
          rcases fits with ⟨found, usable, holder, none⟩
          refine ⟨known found, ?_⟩
          rw [at_slot (short found)]
          refine ⟨usable, holder, ?_⟩
          rw [Registry.insert_of_find_eq_none missing]
          exact none
      | sweeping shard left removed => exact ⟨latches ▸ fits.1, stays fits.2⟩
      | unlinking other shard left removed =>
          rcases fits with ⟨latch, pending, absent, own, retired⟩
          have apart : key ≠ other := by
            rintro rfl
            rw [Registry.latchOf, own, latch] at free
            cases free
          refine ⟨latches ▸ latch, stays pending, absent, ?_, ?_⟩
          · rw [shardOf.1, shardOf.2]
            exact own
          · intro slot found
            rw [Registry.find_insert, if_neg apart, Option.or_none] at found
            rw [at_slot (short found)]
            exact retired slot found
      | _ => trivial

theorem unlink (fits : activity.Fits registry party) {key : κ} {owner : Party}
    (latch : registry.latchOf key = .exclusive owner)
    (retired : ∀ slot, registry.find key = some slot → (registry.slots.get slot).retired = true)
    (others : activity.isBuilding = true ∨ owner ≠ party) :
    activity.Fits (registry.unlink key) party := by
  have known {other : κ} {slot : SlotId} (found : registry.find other = some slot)
      (apart : key ≠ other) : (registry.unlink key).find other = some slot := by
    rw [Registry.find_unlink, if_neg apart]
    exact found
  have stays {shard : Nat} {left : List (κ × SlotId)} (pending : Pending registry shard left)
      (own : registry.latches.get shard = .exclusive party) (apart : owner ≠ party) :
      Pending (registry.unlink key) shard left := by
    refine ⟨pending.distinct, fun entry mem => known (pending.listed entry mem) ?_, pending.inside⟩
    rintro rfl
    rw [Registry.latchOf, pending.inside entry mem, own] at latch
    cases latch
    exact apart rfl
  cases activity with
  | entering other slot =>
      refine ⟨fits.1, ?_⟩
      rcases fits.2 with found | gone
      · by_cases same : key = other
        · subst same
          exact Or.inr (retired slot found)
        · exact Or.inl (known found same)
      · exact Or.inr gone
  | building other slot =>
      rcases fits with ⟨found, usable, rest⟩
      refine ⟨known found ?_, usable, rest⟩
      rintro rfl
      rw [retired slot found] at usable
      cases usable
  | sweeping shard left removed =>
      have apart : owner ≠ party := others.resolve_left Bool.false_ne_true
      exact ⟨fits.1, stays fits.2 fits.1 apart⟩
  | unlinking other shard left removed =>
      have apart : owner ≠ party := others.resolve_left Bool.false_ne_true
      rcases fits with ⟨own, pending, absent, inside, gone⟩
      refine ⟨own, stays pending own apart, absent, inside, fun slot found => ?_⟩
      rw [Registry.find_unlink] at found
      split at found
      · cases found
      · exact gone slot found
  | _ => trivial

end Activity.Fits

section Steps

variable {registry after : Registry κ α} {frames next : Party → List (Activity κ)} {party : Party}
  {activity : Activity κ} {rest : List (Activity κ)}

theorem Activity.Fits.holder (fits : activity.Fits registry party) {slot : SlotId}
    (site : activity.site? = some slot) : (registry.slots.get slot).holder = some party := by
  cases activity with
  | building key other =>
      obtain rfl := Option.some.inj site
      exact fits.2.2.1
  | _ => cases site

namespace Sound

/-- Nobody builds for a slot whose lock is free. -/
theorem site_ne_of_unlocked (sound : Sound registry frames) {slot : SlotId}
    (unlocked : (registry.slots.get slot).holder = none) {other : Party} {beside : Activity κ}
    (mem : beside ∈ frames other) : beside.site? ≠ some slot := by
  intro site
  have holder := (sound.fits other beside mem).holder site
  rw [unlocked] at holder
  cases holder

/-- Nobody else builds for the slot for which a party builds. -/
theorem site_ne (sound : Sound registry frames) (doing : frames party = activity :: rest)
    {slot : SlotId} (builds : activity.site? = some slot) {other : Party} {beside : Activity κ}
    (own : party = other → beside ∈ rest) (mem : beside ∈ frames other) :
    beside.site? ≠ some slot := by
  intro site
  have mine : activity ∈ frames party := by
    rw [doing]
    exact List.mem_cons_self
  have holder := (sound.fits other beside mem).holder site
  rw [(sound.fits party activity mine).holder builds] at holder
  have once := sound.once party
  rw [doing, List.filterMap_cons_some builds, List.nodup_cons] at once
  exact once.1 (List.mem_filterMap.mpr ⟨beside, own (Option.some.inj holder), site⟩)

theorem isBuilding_of_beside (sound : Sound registry frames)
    (doing : frames party = activity :: rest) {other : Party} {beside : Activity κ}
    (own : party = other → beside ∈ rest) : beside.isBuilding = true ∨ party ≠ other := by
  by_cases same : party = other
  · refine Or.inl (sound.nested party beside ?_)
    rw [doing]
    exact own same
  · exact Or.inr same

/-- A party replaces its innermost activity or ends it. -/
theorem replace (sound : Sound registry frames) (doing : frames party = activity :: rest)
    (head : Option (Activity κ)) (new : next party = head.toList ++ rest)
    (others : ∀ other, party ≠ other → next other = frames other) (map : after.Sound)
    (keeps : ∀ other, ∀ beside ∈ frames other, (party = other → beside ∈ rest) →
      beside.Fits registry other → beside.Fits after other)
    (fits : ∀ fresh ∈ head, fresh.Fits after party)
    (once : ∀ fresh ∈ head, ∀ slot, fresh.site? = some slot →
      (registry.slots.get slot).holder = none) : Sound after next := by
  have older {beside : Activity κ} (mem : beside ∈ rest) : beside ∈ frames party := by
    rw [doing]
    exact List.mem_cons_of_mem activity mem
  have inner {beside : Activity κ} (mem : beside ∈ rest) : beside.isBuilding = true := by
    refine sound.nested party beside ?_
    rw [doing]
    exact mem
  have formerly : (rest.filterMap Activity.site?).Nodup := by
    have distinct := sound.once party
    rw [doing] at distinct
    exact distinct.sublist ((List.sublist_cons_self activity rest).filterMap _)
  refine ⟨map, ?_, ?_, ?_⟩
  · intro other beside mem
    by_cases same : party = other
    · subst same
      rw [new, List.mem_append, Option.mem_toList] at mem
      rcases mem with fresh | mem
      · exact fits beside fresh
      · exact keeps party beside (older mem) (fun _ => mem) (sound.fits party beside (older mem))
    · rw [others other same] at mem
      exact keeps other beside mem (fun own => absurd own same) (sound.fits other beside mem)
  · intro other beside mem
    by_cases same : party = other
    · subst same
      rw [new] at mem
      cases head with
      | none => exact inner (List.mem_of_mem_tail mem)
      | some fresh => exact inner mem
    · rw [others other same] at mem
      exact sound.nested other beside mem
  · intro other
    by_cases same : party = other
    · subst same
      rw [new]
      cases head with
      | none => exact formerly
      | some fresh =>
          cases site : fresh.site? with
          | none => simpa [List.filterMap_cons_none site] using formerly
          | some slot =>
              rw [Option.toList_some, List.singleton_append, List.filterMap_cons_some site,
                List.nodup_cons]
              refine ⟨?_, formerly⟩
              intro listed
              rcases List.mem_filterMap.mp listed with ⟨beside, mem, same⟩
              exact sound.site_ne_of_unlocked (once fresh rfl slot site) (older mem) same
    · rw [others other same]
      exact sound.once other

/-- A party begins something inside of what it is doing. -/
theorem push (sound : Sound registry frames) (new : next party = activity :: frames party)
    (others : ∀ other, party ≠ other → next other = frames other)
    (ready : (frames party).head?.all Activity.isBuilding = true)
    (loose : activity.isLoose = true) : Sound registry next := by
  have building : ∀ beside ∈ frames party, beside.isBuilding = true := by
    have nested := sound.nested party
    cases doing : frames party with
    | nil => simp
    | cons first rest =>
        rw [doing] at ready nested
        intro beside mem
        rcases List.mem_cons.mp mem with rfl | mem
        · exact ready
        · exact nested beside mem
  refine ⟨sound.sound, ?_, ?_, ?_⟩
  · intro other beside mem
    by_cases same : party = other
    · subst same
      rw [new] at mem
      rcases List.mem_cons.mp mem with rfl | mem
      · exact .of_isLoose loose
      · exact sound.fits party beside mem
    · rw [others other same] at mem
      exact sound.fits other beside mem
  · intro other beside mem
    by_cases same : party = other
    · subst same
      rw [new] at mem
      exact building beside mem
    · rw [others other same] at mem
      exact sound.nested other beside mem
  · intro other
    by_cases same : party = other
    · subst same
      rw [new, List.filterMap_cons_none (site?_of_isLoose loose)]
      exact sound.once party
    · rw [others other same]
      exact sound.once other

section Slots

variable {key : κ} {slot : SlotId} {stack : List (Activity κ)}

theorem publish (sound : Sound registry frames)
    (doing : frames party = .building key slot :: stack) (new : next party = stack)
    (others : ∀ other, party ≠ other → next other = frames other) (content : α) :
    Sound (registry.publish key slot content).1 next := by
  have fits := sound.fits party (.building key slot) (by rw [doing]; exact List.mem_cons_self)
  refine sound.replace doing none new others
    (sound.sound.publish content fits.1 fits.2.1 fits.2.2.2) ?_ (by rintro _ ⟨⟩) (by rintro _ ⟨⟩)
  intro other beside mem own kept
  have apart := sound.site_ne doing rfl own mem
  refine (kept.modifySlot slot
    (fun place => { place with target := some registry.objects.length, holder := none })
    (fun _ retired => retired) apart).objects ?_
  intro place id site target none
  have elsewhere : slot ≠ place := fun same => apart (same ▸ site)
  have former : (registry.slots.get place).target = some id := by
    simpa only [Registry.modifySlot, Table.modify, Table.get_set_of_ne _ _ elsewhere] using target
  have short := sound.sound.targets place id former
  refine Eq.trans ?_ none
  simp only [Registry.references, Registry.modifySlot, List.getElem?_append_left short]

theorem fail (sound : Sound registry frames)
    (doing : frames party = .building key slot :: stack) (new : next party = stack)
    (others : ∀ other, party ≠ other → next other = frames other) :
    Sound (registry.modifySlot slot fun place => { place with holder := none }) next := by
  refine sound.replace doing none new others
    (sound.sound.modifySlot (fun _ => rfl) (Or.inr fun _ => rfl)) ?_ (by rintro _ ⟨⟩)
    (by rintro _ ⟨⟩)
  intro other beside mem own kept
  exact kept.modifySlot slot _ (fun _ retired => retired) (sound.site_ne doing rfl own mem)

theorem find (sound : Sound registry frames) (doing : frames party = .lookingUp key :: stack)
    (new : next party = .entering key slot :: stack)
    (others : ∀ other, party ≠ other → next other = frames other)
    (found : registry.find key = some slot) : Sound registry next := by
  refine sound.replace doing (some _) new others sound.sound (fun _ _ _ _ kept => kept) ?_ ?_
  · rintro _ ⟨⟩
    exact ⟨sound.sound.fresh _ (Registry.mem_entries_of_find found), Or.inl found⟩
  · rintro _ ⟨⟩ place ⟨⟩

theorem insert (sound : Sound registry frames) (doing : frames party = .inserting key :: stack)
    (new : next party = .entering key (registry.insert key).2 :: stack)
    (others : ∀ other, party ≠ other → next other = frames other)
    (free : (registry.latchOf key).admitsWriter = true) :
    Sound (registry.insert key).1 next := by
  refine sound.replace doing (some _) new others (sound.sound.insert key)
    (fun _ _ _ _ kept => kept.insert sound.sound free) ?_ ?_
  · rintro _ ⟨⟩
    have found : (registry.insert key).1.find key = some (registry.insert key).2 := by
      rw [Registry.find_insert, if_pos rfl]
      cases missing : registry.find key with
      | none => rfl
      | some place => rw [Registry.insert_of_find_eq_some missing, Option.some_or]
    exact ⟨(sound.sound.insert key).fresh _ (Registry.mem_entries_of_find found), Or.inl found⟩
  · rintro _ ⟨⟩ place ⟨⟩

theorem join (sound : Sound registry frames) (doing : frames party = .entering key slot :: stack)
    (new : next party = stack) (others : ∀ other, party ≠ other → next other = frames other)
    {object : ObjectId} (alive : registry.live? (registry.slots.get slot) = some object) :
    Sound (registry.refer object) next := by
  have lives := (Registry.live?_eq_some_iff.mp alive).2
  have keepsDead (none : registry.references object = 0) : 0 + 1 = 0 :=
    absurd none (Nat.ne_of_gt lives)
  exact sound.replace doing none new others (sound.sound.modifyReferences keepsDead)
    (fun _ _ _ _ kept => kept.modifyReferences keepsDead) (by rintro _ ⟨⟩) (by rintro _ ⟨⟩)

theorem lock (sound : Sound registry frames) (doing : frames party = .entering key slot :: stack)
    (new : next party = .building key slot :: stack)
    (others : ∀ other, party ≠ other → next other = frames other)
    (unlocked : (registry.slots.get slot).holder = none)
    (usable : (registry.slots.get slot).retired = false)
    (dead : registry.live? (registry.slots.get slot) = none) :
    Sound (registry.modifySlot slot fun place => { place with holder := some party }) next := by
  have fits := sound.fits party (.entering key slot) (by rw [doing]; exact List.mem_cons_self)
  refine sound.replace doing (some _) new others
    (sound.sound.modifySlot (fun _ => rfl) (Or.inr fun _ => rfl)) ?_ ?_ ?_
  · intro other beside mem _ kept
    exact kept.modifySlot slot _ (fun _ retired => retired)
      (sound.site_ne_of_unlocked unlocked mem)
  · rintro _ ⟨⟩
    have found : registry.find key = some slot :=
      fits.2.resolve_right (by rw [usable]; exact Bool.false_ne_true)
    simp only [Activity.Fits, Registry.modifySlot, Table.modify, Table.get_set_same]
    exact ⟨found, usable, trivial, dead⟩
  · rintro _ ⟨⟩ place ⟨⟩
    exact unlocked

end Slots

section Purges

variable {shard removed : Nat} {left : List (κ × SlotId)} {stack : List (Activity κ)}

theorem occupy (sound : Sound registry frames)
    (doing : frames party = .approaching shard removed :: stack)
    (new : next party = .sweeping shard (registry.shard shard) removed :: stack)
    (others : ∀ other, party ≠ other → next other = frames other)
    (free : (registry.latches.get shard).admitsWriter = true) :
    Sound (registry.modifyLatch shard fun _ => .exclusive party) next := by
  refine sound.replace doing (some _) new others (sound.sound.modifyLatch shard _) ?_ ?_ ?_
  · intro other beside _ _ kept
    refine kept.modifyLatch (Or.inr (Or.inl ?_))
    intro taken
    rw [taken] at free
    cases free
  · rintro _ ⟨⟩
    refine ⟨?_, ?_, ?_, ?_⟩
    · simp only [Registry.modifyLatch, Table.modify, Table.get_set_same]
    · exact sound.sound.keys.sublist (List.filter_sublist.map _)
    · intro entry mem
      exact Registry.find_of_mem_entries sound.sound.keys (List.mem_filter.mp mem).1
    · intro entry mem
      have inside : registry.shardOf entry.1 % registry.shards = shard := by
        simpa using (List.mem_filter.mp mem).2
      exact inside
  · rintro _ ⟨⟩ place ⟨⟩

theorem skip (sound : Sound registry frames) {entry : κ × SlotId}
    (doing : frames party = .sweeping shard (entry :: left) removed :: stack)
    (new : next party = .sweeping shard left removed :: stack)
    (others : ∀ other, party ≠ other → next other = frames other) : Sound registry next := by
  have fits := sound.fits party (.sweeping shard (entry :: left) removed)
    (by rw [doing]; exact List.mem_cons_self)
  refine sound.replace doing (some _) new others sound.sound (fun _ _ _ _ kept => kept) ?_ ?_
  · rintro _ ⟨⟩
    exact ⟨fits.1, fits.2.tail.1⟩
  · rintro _ ⟨⟩ place ⟨⟩

theorem retire (sound : Sound registry frames) {key : κ} {slot : SlotId}
    (doing : frames party = .sweeping shard ((key, slot) :: left) removed :: stack)
    (new : next party = .unlinking key shard left (removed + 1) :: stack)
    (others : ∀ other, party ≠ other → next other = frames other)
    (dead : registry.countsAsLive slot = false) :
    Sound (registry.modifySlot slot fun place => { place with retired := true }) next := by
  have fits := sound.fits party (.sweeping shard ((key, slot) :: left) removed)
    (by rw [doing]; exact List.mem_cons_self)
  simp only [Registry.countsAsLive, Bool.or_eq_false_iff, Option.isSome_eq_false_iff,
    Option.isNone_iff_eq_none] at dead
  refine sound.replace doing (some _) new others
    (sound.sound.modifySlot (fun _ => rfl) (Or.inl dead.2)) ?_ ?_ ?_
  · intro other beside mem _ kept
    exact kept.modifySlot slot _ (fun _ _ => rfl) (sound.site_ne_of_unlocked dead.1 mem)
  · rintro _ ⟨⟩
    have pending := fits.2.tail
    have own := fits.2.inside (key, slot) List.mem_cons_self
    have listed := fits.2.listed (key, slot) List.mem_cons_self
    refine ⟨fits.1, ⟨pending.1.distinct, pending.1.listed, pending.1.inside⟩, pending.2, own, ?_⟩
    intro place found
    obtain rfl := Option.some.inj (listed.symm.trans found)
    simp only [Registry.modifySlot, Table.modify, Table.get_set_same]
  · rintro _ ⟨⟩ place ⟨⟩

theorem unlink (sound : Sound registry frames) {key : κ}
    (doing : frames party = .unlinking key shard left removed :: stack)
    (new : next party = .sweeping shard left removed :: stack)
    (others : ∀ other, party ≠ other → next other = frames other) :
    Sound (registry.unlink key) next := by
  have fits := sound.fits party (.unlinking key shard left removed)
    (by rw [doing]; exact List.mem_cons_self)
  rcases fits with ⟨latch, pending, absent, own, retired⟩
  have holds : registry.latchOf key = .exclusive party := by
    rw [Registry.latchOf, own]
    exact latch
  refine sound.replace doing (some _) new others (sound.sound.unlink retired) ?_ ?_ ?_
  · intro other beside _ mine kept
    exact kept.unlink holds retired (sound.isBuilding_of_beside doing mine)
  · rintro _ ⟨⟩
    refine ⟨latch, pending.distinct, ?_, pending.inside⟩
    intro entry mem
    rw [Registry.find_unlink, if_neg]
    · exact pending.listed entry mem
    · rintro rfl
      exact absent (List.mem_map_of_mem mem)
  · rintro _ ⟨⟩ place ⟨⟩

theorem vacate (sound : Sound registry frames)
    (doing : frames party = .sweeping shard [] removed :: stack)
    (new : next party = .approaching (shard + 1) removed :: stack)
    (others : ∀ other, party ≠ other → next other = frames other) :
    Sound (registry.modifyLatch shard fun _ => .free) next := by
  have fits := sound.fits party (.sweeping shard [] removed)
    (by rw [doing]; exact List.mem_cons_self)
  refine sound.replace doing (some _) new others (sound.sound.modifyLatch shard _) ?_ ?_ ?_
  · intro other beside _ mine kept
    refine kept.modifyLatch ((sound.isBuilding_of_beside doing mine).imp_right fun apart => ?_)
    refine Or.inl fun taken => apart ?_
    cases fits.1.symm.trans taken
    rfl
  · rintro _ ⟨⟩
    exact trivial
  · rintro _ ⟨⟩ place ⟨⟩

end Purges

/-- Every change of an activity keeps a registry sound. -/
theorem of_change {gain : Option (Reference κ)} (sound : Sound registry frames)
    (change : Change registry party (frames party) after (next party) gain)
    (others : ∀ other, party ≠ other → next other = frames other) : Sound after next := by
  have loosely {fresh : Activity κ} (loose : fresh.isLoose = true) :
      (∀ head ∈ some fresh, head.Fits after party) ∧
        ∀ head ∈ some fresh, ∀ slot, head.site? = some slot →
          (registry.slots.get slot).holder = none := by
    constructor
    · rintro head ⟨⟩
      exact .of_isLoose loose
    · rintro head ⟨⟩ slot site
      rw [site?_of_isLoose loose] at site
      cases site
  generalize doing : frames party = before at change
  generalize new : next party = following at change
  cases change with
  | begin ready loose =>
      subst doing
      exact sound.push new others ready loose
  | turn stack loose looseNext =>
      exact sound.replace doing (some _) new others sound.sound (fun _ _ _ _ fits => fits)
        (loosely looseNext).1 (loosely looseNext).2
  | finish stack loose =>
      exact sound.replace doing none new others sound.sound (fun _ _ _ _ fits => fits)
        (by rintro _ ⟨⟩) (by rintro _ ⟨⟩)
  | pass stack shard change loose looseNext keeps =>
      exact sound.replace doing (some _) new others (sound.sound.modifyLatch shard change)
        (fun other _ _ _ fits => fits.modifyLatch (Or.inr (Or.inr (keeps other))))
        (loosely looseNext).1 (loosely looseNext).2
  | publish key slot content => exact sound.publish doing new others content
  | fail key slot => exact sound.fail doing new others
  | find stack found => exact sound.find doing new others found
  | insert stack free => exact sound.insert doing new others free
  | retry key stack retired =>
      exact sound.replace doing (some _) new others sound.sound (fun _ _ _ _ fits => fits)
        (loosely rfl).1 (loosely rfl).2
  | join key stack usable alive => exact sound.join doing new others alive
  | lock key stack unlocked usable dead => exact sound.lock doing new others unlocked usable dead
  | occupy removed stack free => exact sound.occupy doing new others free
  | skip shard entry left removed => exact sound.skip doing new others
  | retire shard key left removed stack dead => exact sound.retire doing new others dead
  | unlink key shard left removed => exact sound.unlink doing new others
  | vacate shard removed => exact sound.vacate doing new others

end Sound

end Steps

end RegistrySystem

end Coordination
