import Coordination.Proofs.Registry.History

/-!
# The retirement of slots

A purge retires a slot while nobody holds its lock and nobody has a reference to its object, and unlinks
it with its next step (`Event.Purges`). A retired slot is never used again, so of the retired slots the
map has those only that a purge is about to unlink (`Orderly`).
-/

namespace Coordination

namespace Registry

variable {κ α : Type} {registry : Registry κ α}

theorem get_modifySlot (registry : Registry κ α) (slot other : SlotId) (change : Slot → Slot) :
    (registry.modifySlot slot change).slots.get other
      = if slot = other then change (registry.slots.get slot) else registry.slots.get other := by
  simp only [modifySlot, Table.modify, Table.get_set]

end Registry

namespace RegistrySystem

variable {κ α : Type}

/-- The shard on which a purge is at work. -/
def Activity.shard? : Activity κ → Option Nat
  | .sweeping shard _ _ | .unlinking _ shard _ _ => some shard
  | _ => none

variable [DecidableEq κ]

/-- The order that purges keep in a map. -/
structure Orderly (registry : Registry κ α) (frames : Party → List (Activity κ)) : Prop where
  known : ∀ slot, (registry.slots.get slot).retired = true → slot < registry.nextSlot
  /-- Nobody has a reference to the object of a retired slot. -/
  dead : ∀ slot, (registry.slots.get slot).retired = true →
    registry.live? (registry.slots.get slot) = none
  /-- An entry that is about to be unlinked has been counted. -/
  counted : ∀ party key shard left removed, .unlinking key shard left removed ∈ frames party →
    0 < removed ∧ ∃ slot, registry.find key = some slot
  /-- The entry of a retired slot is about to be unlinked. -/
  leaving : ∀ entry ∈ registry.entries, (registry.slots.get entry.2).retired = true →
    ∃ party shard left removed, .unlinking entry.1 shard left removed ∈ frames party

section Changing

variable {registry after : Registry κ α} {frames next : Party → List (Activity κ)} {party : Party}
  {before following : List (Activity κ)} {gain : Option (Reference κ)}

/-- A slot is retired in one place only. -/
theorem Change.retires (change : Change registry party before after following gain)
    (known : ∀ slot, (registry.slots.get slot).retired = true → slot < registry.nextSlot)
    (slot : SlotId) :
    (after.slots.get slot).retired = (registry.slots.get slot).retired ∨
      ∃ key shard left removed rest,
        before = .sweeping shard ((key, slot) :: left) removed :: rest ∧
        following = .unlinking key shard left (removed + 1) :: rest ∧
        registry.countsAsLive slot = false ∧ (after.slots.get slot).retired = true := by
  cases change with
  | retire shard key left removed stack dead =>
      rename_i place
      rw [Registry.get_modifySlot]
      by_cases same : place = slot
      · subst same
        exact Or.inr ⟨key, shard, left, removed, stack, rfl, rfl, dead, by rw [if_pos rfl]⟩
      · rw [if_neg same]
        exact Or.inl rfl
  | @insert key stack free =>
      left
      cases found : registry.find key with
      | some place => rw [Registry.insert_of_find_eq_some found]
      | none =>
          rw [Registry.insert_of_find_eq_none found, Table.get_set]
          split
          · rename_i same
            cases retired : (registry.slots.get slot).retired with
            | true => exact absurd same (Nat.ne_of_gt (known slot retired))
            | false => rfl
          · rfl
  | publish key place content =>
      left
      simp only [Registry.publish, Registry.get_modifySlot]
      split
      · rename_i same
        rw [same]
      · rfl
  | fail key place =>
      left
      rw [Registry.get_modifySlot]
      split
      · rename_i same
        rw [same]
      · rfl
  | lock key stack =>
      left
      rw [Registry.get_modifySlot]
      split
      · rename_i same
        rw [same]
      · rfl
  | _ => exact Or.inl rfl

/-- A slot gets a new object only from a party that builds for it. -/
theorem Change.publishes (change : Change registry party before after following gain) {slot : SlotId}
    {id : ObjectId} (target : (after.slots.get slot).target = some id)
    (new : (registry.slots.get slot).target ≠ some id) :
    ∃ key rest, before = .building key slot :: rest := by
  have untouched {place : SlotId} {change : Slot → Slot}
      (aims : ((registry.modifySlot place change).slots.get slot).target = some id)
      (keeps : ∀ other, (change other).target = other.target) : False := by
    rw [Registry.get_modifySlot] at aims
    split at aims
    · rename_i same
      rw [keeps, same] at aims
      exact new aims
    · exact new aims
  cases change with
  | publish key place content stack =>
      simp only [Registry.publish, Registry.get_modifySlot] at target
      split at target
      · rename_i same
        subst same
        exact ⟨key, _, rfl⟩
      · exact absurd target new
  | fail | lock | retire => exact (untouched target fun _ => rfl).elim
  | @insert key stack free =>
      cases found : registry.find key with
      | some place =>
          rw [Registry.insert_of_find_eq_some found] at target
          exact absurd target new
      | none =>
          rw [Registry.insert_of_find_eq_none found, Table.get_set] at target
          split at target
          · cases target
          · exact absurd target new
  | _ => exact absurd target new


/-- A party is about to unlink the entry of a slot when it has just retired it. -/
theorem Change.unlinking_of_following (change : Change registry party before after following gain)
    {key : κ} {shard removed : Nat} {left : List (κ × SlotId)}
    (mem : .unlinking key shard left removed ∈ following) :
    .unlinking key shard left removed ∈ before ∨ ∃ slot counted rest, removed = counted + 1 ∧
      before = .sweeping shard ((key, slot) :: left) counted :: rest := by
  cases change with
  | begin ready loose =>
      rcases List.mem_cons.mp mem with rfl | mem
      · cases loose
      · exact Or.inl mem
  | turn stack loose looseNext =>
      rcases List.mem_cons.mp mem with rfl | mem
      · cases looseNext
      · exact Or.inl (List.mem_cons_of_mem _ mem)
  | pass stack shard change loose looseNext =>
      rcases List.mem_cons.mp mem with rfl | mem
      · cases looseNext
      · exact Or.inl (List.mem_cons_of_mem _ mem)
  | finish | publish | fail | join => exact Or.inl (List.mem_cons_of_mem _ mem)
  | retire place name entries counted stack =>
      rcases List.mem_cons.mp mem with same | mem
      · cases same
        exact Or.inr ⟨_, _, _, rfl, rfl⟩
      · exact Or.inl (List.mem_cons_of_mem _ mem)
  | _ =>
      rcases List.mem_cons.mp mem with same | mem
      · cases same
      · exact Or.inl (List.mem_cons_of_mem _ mem)

/-- A party that is about to unlink an entry does so before anything else. -/
theorem Change.unlinking_of_before (change : Change registry party before after following gain)
    {key : κ} {shard removed : Nat} {left : List (κ × SlotId)}
    (mem : .unlinking key shard left removed ∈ before) :
    .unlinking key shard left removed ∈ following ∨ after = registry.unlink key := by
  cases change with
  | begin ready loose => exact Or.inl (List.mem_cons_of_mem _ mem)
  | turn stack loose | pass stack shard change loose =>
      rcases List.mem_cons.mp mem with rfl | mem
      · cases loose
      · exact Or.inl (List.mem_cons_of_mem _ mem)
  | finish stack loose =>
      rcases List.mem_cons.mp mem with rfl | mem
      · cases loose
      · exact Or.inl mem
  | publish | fail | join =>
      rcases List.mem_cons.mp mem with same | mem
      · cases same
      · exact Or.inl mem
  | unlink name place entries counted stack =>
      rcases List.mem_cons.mp mem with same | mem
      · cases same
        exact Or.inr rfl
      · exact Or.inl (List.mem_cons_of_mem _ mem)
  | _ =>
      rcases List.mem_cons.mp mem with same | mem
      · cases same
      · exact Or.inl (List.mem_cons_of_mem _ mem)

/-- A purge unlinks an entry as soon as it has retired its slot. -/
theorem Change.unlinked {key : κ} {shard removed : Nat} {left : List (κ × SlotId)}
    {rest : List (Activity κ)}
    (change : Change registry party (.unlinking key shard left removed :: rest) after following gain) :
    following = .sweeping shard left removed :: rest ∧ after = registry.unlink key := by
  cases change with
  | begin ready => cases ready
  | turn stack loose | finish stack loose | pass stack shard change loose => cases loose
  | unlink => exact ⟨rfl, rfl⟩

/-- What a change does to the entries of a map. -/
inductive Change.Entries (registry after : Registry κ α) (before following : List (Activity κ)) :
    Prop where
  | same (entries : after.entries = registry.entries) (number : after.nextSlot = registry.nextSlot)
  | insert {key : κ} (absent : registry.find key = none)
      (inserts : after = (registry.insert key).1)
  | unlink {key : κ} {shard removed : Nat} {left : List (κ × SlotId)} {rest : List (Activity κ)}
      (doing : before = .unlinking key shard left removed :: rest)
      (next : following = .sweeping shard left removed :: rest)
      (unlinks : after = registry.unlink key)

theorem Change.entries (change : Change registry party before after following gain) :
    Change.Entries registry after before following := by
  cases change with
  | @insert key stack free =>
      cases found : registry.find key with
      | some place =>
          rw [Registry.insert_of_find_eq_some found]
          exact .same rfl rfl
      | none => exact .insert found rfl
  | unlink => exact .unlink rfl rfl rfl
  | _ => exact .same rfl rfl

namespace Change.Entries

theorem nextSlot_le (entries : Change.Entries registry after before following) :
    registry.nextSlot ≤ after.nextSlot := by
  cases entries with
  | same entries number => exact Nat.le_of_eq number.symm
  | insert absent inserts =>
      rw [inserts, Registry.insert_of_find_eq_none absent]
      exact Nat.le_succ _
  | unlink doing next unlinks => exact Nat.le_of_eq (congrArg Registry.nextSlot unlinks).symm

/-- What is in a map was there before, or has a new slot. -/
theorem mem_or_new (entries : Change.Entries registry after before following) {entry : κ × SlotId}
    (mem : entry ∈ after.entries) : entry ∈ registry.entries ∨ entry.2 = registry.nextSlot := by
  cases entries with
  | same entries number =>
      rw [entries] at mem
      exact Or.inl mem
  | insert absent inserts =>
      rw [inserts, Registry.insert_of_find_eq_none absent] at mem
      rcases List.mem_append.mp mem with former | new
      · exact Or.inl former
      · rw [List.mem_singleton.mp new]
        exact Or.inr rfl
  | unlink doing next unlinks =>
      rw [unlinks] at mem
      exact Or.inl (List.mem_filter.mp mem).1

/-- What is found stays where it is, unless it is unlinked. -/
theorem find_of_find (entries : Change.Entries registry after before following) {key : κ}
    {slot : SlotId} (found : registry.find key = some slot)
    (spared : ∀ shard left removed rest, before ≠ .unlinking key shard left removed :: rest) :
    after.find key = some slot := by
  cases entries with
  | same entries number =>
      rw [Registry.find, entries]
      exact found
  | insert absent inserts => rw [inserts, Registry.find_insert, found, Option.some_or]
  | unlink doing next unlinks =>
      rw [unlinks, Registry.find_unlink, if_neg]
      · exact found
      · rintro rfl
        exact spared _ _ _ _ doing

/-- Nothing leaves a map unless it is unlinked. -/
theorem unlinks_of_not_mem (entries : Change.Entries registry after before following)
    {entry : κ × SlotId} (mem : entry ∈ registry.entries) (gone : entry ∉ after.entries) :
    ∃ shard left removed rest, before = .unlinking entry.1 shard left removed :: rest ∧
      following = .sweeping shard left removed :: rest := by
  cases entries with
  | same entries number =>
      rw [entries] at gone
      exact absurd mem gone
  | insert absent inserts =>
      rw [inserts, Registry.insert_of_find_eq_none absent] at gone
      exact absurd (List.mem_append_left _ mem) gone
  | @unlink key shard removed left rest doing next unlinks =>
      have same : entry.1 = key := by
        by_contra apart
        rw [unlinks] at gone
        exact gone (List.mem_filter.mpr ⟨mem, decide_eq_true apart⟩)
      subst same
      exact ⟨shard, left, removed, rest, doing, next⟩

end Change.Entries

/-- An object to which nobody has a reference does not come to life again. -/
theorem Change.references (change : Change registry party before after following gain)
    {id : ObjectId} (built : id < registry.objects.length) (dead : registry.references id = 0) :
    after.references id = 0 := by
  cases change with
  | publish key slot content =>
      refine Eq.trans ?_ dead
      simp only [Registry.references, Registry.publish, Registry.modifySlot,
        List.getElem?_append_left built]
  | join key stack usable alive =>
      rw [Registry.refer, Registry.references_modifyReferences, if_neg]
      · exact dead
      · rintro ⟨rfl, _⟩
        exact absurd dead (Nat.ne_of_gt (Registry.live?_eq_some_iff.mp alive).2)
  | @insert key stack free =>
      cases found : registry.find key with
      | some place =>
          rw [Registry.insert_of_find_eq_some found]
          exact dead
      | none =>
          rw [Registry.insert_of_find_eq_none found]
          exact dead
  | _ => exact dead

end Changing

section Keeping

variable {registry after : Registry κ α} {frames next : Party → List (Activity κ)} {party : Party}
  {gain : Option (Reference κ)}

/-- A party builds for a slot that is not retired. -/
theorem Sound.usable_of_building (sound : Sound registry frames) {key : κ} {slot : SlotId}
    {rest : List (Activity κ)} (doing : frames party = .building key slot :: rest) :
    registry.find key = some slot ∧ (registry.slots.get slot).retired = false := by
  have fits := sound.fits party (.building key slot) (by rw [doing]; exact List.mem_cons_self)
  exact ⟨fits.1, fits.2.1⟩

/-- A purge looks at entries of the map. -/
theorem Sound.listed_of_sweeping (sound : Sound registry frames) {shard removed : Nat} {key : κ}
    {slot : SlotId} {left : List (κ × SlotId)} {rest : List (Activity κ)}
    (doing : frames party = .sweeping shard ((key, slot) :: left) removed :: rest) :
    registry.find key = some slot := by
  have fits := sound.fits party _ (by rw [doing]; exact List.mem_cons_self)
  exact fits.2.listed (key, slot) List.mem_cons_self

/-- A party unlinks one entry at a time, and no other party is about to unlink the same. -/
theorem Sound.party_eq_of_unlinking (sound : Sound registry frames) {key : κ} {other : Party}
    {shard removed place counted : Nat} {left entries : List (κ × SlotId)}
    (mem : .unlinking key shard left removed ∈ frames party)
    (also : .unlinking key place entries counted ∈ frames other) : party = other := by
  have fits := sound.fits party _ mem
  have beside := sound.fits other _ also
  obtain rfl : shard = place := fits.2.2.2.1.symm.trans beside.2.2.2.1
  cases fits.1.symm.trans beside.1
  rfl

namespace Orderly

/-- Nobody gets a reference to the object of a retired slot. -/
theorem dead_of_change (orderly : Orderly registry frames) (sound : Sound registry frames)
    (change : Change registry party (frames party) after (next party) gain) (slot : SlotId)
    (retired : (after.slots.get slot).retired = true) :
    after.live? (after.slots.get slot) = none := by
  have place := change.retires orderly.known slot
  have dead : registry.live? (registry.slots.get slot) = none := by
    rcases place with same | ⟨key, shard, left, removed, rest, _, _, dead, _⟩
    · exact orderly.dead slot (same.symm.trans retired)
    · simp only [Registry.countsAsLive, Bool.or_eq_false_iff, Option.isSome_eq_false_iff,
        Option.isNone_iff_eq_none] at dead
      exact dead.2
  refine Registry.live?_eq_none_iff.mpr fun id target => ?_
  by_cases same : (registry.slots.get slot).target = some id
  · have built := sound.sound.targets slot id same
    exact change.references built (Registry.live?_eq_none_iff.mp dead id same)
  · rcases change.publishes target same with ⟨key, rest, doing⟩
    have usable := (sound.usable_of_building doing).2
    rcases place with still | ⟨_, _, _, _, _, sweeps, _⟩
    · rw [still, usable] at retired
      cases retired
    · rw [doing] at sweeps
      cases sweeps

theorem known_of_change (orderly : Orderly registry frames) (sound : Sound registry frames)
    (change : Change registry party (frames party) after (next party) gain) (slot : SlotId)
    (retired : (after.slots.get slot).retired = true) : slot < after.nextSlot := by
  refine Nat.lt_of_lt_of_le ?_ change.entries.nextSlot_le
  rcases change.retires orderly.known slot with same | ⟨key, shard, left, removed, rest, sweeps, _⟩
  · exact orderly.known slot (same.symm.trans retired)
  · exact sound.sound.fresh _ (Registry.mem_entries_of_find (sound.listed_of_sweeping sweeps))

theorem counted_of_change (orderly : Orderly registry frames) (sound : Sound registry frames)
    (change : Change registry party (frames party) after (next party) gain)
    (others : ∀ other, party ≠ other → next other = frames other) {other : Party} {key : κ}
    {shard removed : Nat} {left : List (κ × SlotId)}
    (mem : .unlinking key shard left removed ∈ next other) :
    0 < removed ∧ ∃ slot, after.find key = some slot := by
  by_cases own : party = other
  · subst own
    have spared (place : Nat) (entries : List (κ × SlotId)) (counted : Nat)
        (rest : List (Activity κ)) : frames party ≠ .unlinking key place entries counted :: rest := by
      intro doing
      rw [doing] at change
      rw [change.unlinked.1] at mem
      rcases List.mem_cons.mp mem with same | inner
      · cases same
      · have builds := sound.nested party _ (by rw [doing]; exact inner)
        cases builds
    rcases change.unlinking_of_following mem with former | ⟨slot, counted, rest, more, sweeps⟩
    · rcases orderly.counted party key shard left removed former with ⟨some, slot, found⟩
      exact ⟨some, slot, change.entries.find_of_find found spared⟩
    · have found := sound.listed_of_sweeping sweeps
      exact ⟨by omega, slot, change.entries.find_of_find found spared⟩
  · rw [others other own] at mem
    rcases orderly.counted other key shard left removed mem with ⟨some, slot, found⟩
    refine ⟨some, slot, change.entries.find_of_find found ?_⟩
    intro place entries counted rest doing
    have unlinks : .unlinking key place entries counted ∈ frames party := by
      rw [doing]
      exact List.mem_cons_self
    exact own (sound.party_eq_of_unlinking unlinks mem)

theorem leaving_of_change (orderly : Orderly registry frames) (sound : Sound registry frames)
    (change : Change registry party (frames party) after (next party) gain)
    (others : ∀ other, party ≠ other → next other = frames other) {entry : κ × SlotId}
    (mem : entry ∈ after.entries) (retired : (after.slots.get entry.2).retired = true) :
    ∃ party shard left removed, .unlinking entry.1 shard left removed ∈ next party := by
  have listed (short : entry.2 < registry.nextSlot) : entry ∈ registry.entries :=
    (change.entries.mem_or_new mem).resolve_right (Nat.ne_of_lt short)
  rcases change.retires orderly.known entry.2 with
    same | ⟨key, shard, left, removed, rest, sweeps, unlinks, _⟩
  · have gone := same.symm.trans retired
    rcases orderly.leaving entry (listed (orderly.known _ gone)) gone with
      ⟨other, shard, left, removed, unlinks⟩
    by_cases own : party = other
    · subst own
      rcases change.unlinking_of_before unlinks with still | unlinked
      · exact ⟨party, shard, left, removed, still⟩
      · rw [unlinked] at mem
        simpa using (List.mem_filter.mp mem).2
    · exact ⟨other, shard, left, removed, by rw [others other own]; exact unlinks⟩
  · have found := sound.listed_of_sweeping sweeps
    have here := Registry.mem_entries_of_find found
    have same : (key, entry.2) = entry :=
      List.inj_on_of_nodup_map sound.sound.places here (listed (sound.sound.fresh (key, entry.2) here)) rfl
    refine ⟨party, shard, left, removed + 1, ?_⟩
    rw [unlinks, ← same]
    exact List.mem_cons_self

theorem of_change (orderly : Orderly registry frames) (sound : Sound registry frames)
    (change : Change registry party (frames party) after (next party) gain)
    (others : ∀ other, party ≠ other → next other = frames other) : Orderly after next :=
  ⟨orderly.known_of_change sound change, orderly.dead_of_change sound change,
    fun _ _ _ _ _ mem => orderly.counted_of_change sound change others mem,
    fun _ mem retired => orderly.leaving_of_change sound change others mem retired⟩

/-- A change of the references that does not bring an object to life leaves the map alone. -/
theorem modifyReferences (orderly : Orderly registry frames) {id : ObjectId} {change : Nat → Nat}
    (keepsDead : registry.references id = 0 → change 0 = 0) :
    Orderly (registry.modifyReferences id change) frames := by
  refine ⟨orderly.known, fun slot retired => ?_, orderly.counted, orderly.leaving⟩
  refine Registry.live?_eq_none_iff.mpr fun other target => ?_
  have none := Registry.live?_eq_none_iff.mp (orderly.dead slot retired) other target
  rw [Registry.references_modifyReferences]
  split
  · rename_i own
    rw [none]
    exact keepsDead (own.1.symm ▸ none)
  · exact none

end Orderly

end Keeping

section Histories

variable {events : List (Event κ α)} {held next : List (Reference κ)}
  {system after : RegistrySystem κ α} {now : Instant} {move : Move κ α} {stepped : Stepped κ α}

theorem Orderly.of_transition (orderly : Orderly system.registry system.stack)
    (invariant : Invariant held system) (transition : Transition system held after next) :
    Orderly after.registry after.stack := by
  cases transition with
  | change party changes gains =>
      exact orderly.of_change invariant.sound changes.change changes.others
  | clone mem refers same =>
      have lives := invariant.accounted.alive mem
      rw [refers, funext same]
      exact orderly.modifyReferences fun none => absurd none (Nat.ne_of_gt lives)
  | drop listed releases same =>
      rw [releases, funext same]
      exact orderly.modifyReferences fun _ => rfl
  | rest untouched same =>
      rw [untouched, funext same]
      exact orderly

theorem Invariant.transition (invariant : Invariant held system)
    (performed : system.perform held now move = some stepped) :
    Transition system held stepped.state (system.record held stepped.reply move) :=
  perform_transition invariant.reaping (fun _ => invariant.accounted.alive) performed

theorem orderly_of_reachable (reachable : Reachable held system) :
    Orderly system.registry system.stack := by
  induction reachable with
  | new shards shardOf =>
      refine ⟨?_, ?_, ?_, ?_⟩
      · rintro slot ⟨⟩
      · rintro slot ⟨⟩
      · rintro party key shard left removed ⟨⟩
      · rintro entry ⟨⟩
  | step reached performed ih =>
      have invariant := invariant_of_reachable reached
      exact ih.of_transition invariant (invariant.transition performed)

/-- A party changes its activities, perhaps with the map, or the map stays as it is. -/
theorem Transition.changes_or_rests (transition : Transition system held after next) :
    (∃ party gain, Changes system party after gain) ∨
      after.registry.slots = system.registry.slots ∧
        after.registry.entries = system.registry.entries ∧
        after.registry.nextSlot = system.registry.nextSlot := by
  cases transition with
  | change party changes gains => exact Or.inl ⟨party, _, changes⟩
  | clone mem refers same =>
      rw [refers]
      exact Or.inr ⟨rfl, rfl, rfl⟩
  | drop listed releases same =>
      rw [releases]
      exact Or.inr ⟨rfl, rfl, rfl⟩
  | rest untouched same =>
      rw [untouched]
      exact Or.inr ⟨rfl, rfl, rfl⟩

/-- How a step deals with the slots and the entries of a map. -/
structure Event.Purges (event : Event κ α) : Prop where
  /-- A slot is retired by a purge that finds its lock free and its object without references. -/
  retires : ∀ slot, (event.before.registry.slots.get slot).retired = false →
    (event.after.registry.slots.get slot).retired = true →
      ∃ key shard left removed rest,
        event.before.stack event.move.party = .sweeping shard ((key, slot) :: left) removed :: rest ∧
        event.after.stack event.move.party = .unlinking key shard left (removed + 1) :: rest ∧
        (event.before.registry.slots.get slot).holder = none ∧
        event.before.registry.live? (event.before.registry.slots.get slot) = none
  stays : ∀ slot, (event.before.registry.slots.get slot).retired = true →
    (event.after.registry.slots.get slot).retired = true
  /-- An entry is unlinked by a purge, and nobody has got a reference to its object since its slot was
  retired. -/
  unlinks : ∀ entry ∈ event.removed, ∃ shard left removed rest,
    event.before.stack event.move.party = .unlinking entry.1 shard left removed :: rest ∧
    event.after.stack event.move.party = .sweeping shard left removed :: rest ∧
    (event.before.registry.slots.get entry.2).retired = true ∧
    event.before.registry.live? (event.before.registry.slots.get entry.2) = none
  /-- No object is published into a retired slot. -/
  publishes : ∀ slot id, (event.after.registry.slots.get slot).target = some id →
    (event.before.registry.slots.get slot).target ≠ some id →
      (event.before.registry.slots.get slot).retired = false ∧
      (event.after.registry.slots.get slot).retired = false

theorem purges_of_perform (reachable : Reachable held system)
    (performed : system.perform held now move = some stepped) :
    Event.Purges ⟨held, system, now, move, stepped.state, stepped.reply⟩ := by
  have invariant := invariant_of_reachable reachable
  have orderly := orderly_of_reachable reachable
  have leads := perform_leads invariant.reaping performed
  rcases (invariant.transition performed).changes_or_rests with
    ⟨party, gain, changes⟩ | ⟨slots, entries, _⟩
  · have change := changes.change
    -- The party that changes its activities is the one that makes the move.
    have own (moves : stepped.state.stack party ≠ system.stack party) : move.party = party := by
      by_contra apart
      exact moves (leads.stack_of_ne apart)
    refine ⟨?_, ?_, ?_, ?_⟩
    · intro slot usable retired
      rcases change.retires orderly.known slot with
        same | ⟨key, shard, left, removed, rest, sweeps, unlinks, dead, _⟩
      · rw [same, usable] at retired
        cases retired
      · obtain rfl := own (by rw [sweeps, unlinks]; rintro ⟨⟩)
        simp only [Registry.countsAsLive, Bool.or_eq_false_iff, Option.isSome_eq_false_iff,
          Option.isNone_iff_eq_none] at dead
        exact ⟨key, shard, left, removed, rest, sweeps, unlinks, dead.1, dead.2⟩
    · intro slot retired
      rcases change.retires orderly.known slot with same | ⟨_, _, _, _, _, _, _, _, also⟩
      · exact same.trans retired
      · exact also
    · intro entry mem
      rw [Event.removed, List.mem_filter, decide_eq_true_iff] at mem
      rcases change.entries.unlinks_of_not_mem mem.1 mem.2 with
        ⟨shard, left, removed, rest, unlinks, sweeps⟩
      obtain rfl := own (by rw [sweeps, unlinks]; rintro ⟨⟩)
      have fits := invariant.sound.fits _ _ (by rw [unlinks]; exact List.mem_cons_self)
      have found := Registry.find_of_mem_entries invariant.sound.sound.keys mem.1
      have retired := fits.2.2.2.2 entry.2 found
      exact ⟨shard, left, removed, rest, unlinks, sweeps, retired, orderly.dead entry.2 retired⟩
    · intro slot id target new
      rcases change.publishes target new with ⟨key, rest, builds⟩
      have usable := (invariant.sound.usable_of_building builds).2
      refine ⟨usable, ?_⟩
      rcases change.retires orderly.known slot with same | ⟨_, _, _, _, _, sweeps, _⟩
      · exact same.trans usable
      · rw [builds] at sweeps
        cases sweeps
  · refine ⟨?_, ?_, ?_, ?_⟩
    · intro slot usable retired
      rw [slots, usable] at retired
      cases retired
    · intro slot retired
      rw [slots]
      exact retired
    · intro entry mem
      simp [Event.removed, entries] at mem
    · intro slot id target new
      rw [slots] at target
      exact absurd target new

end Histories

end RegistrySystem

end Coordination
