import Coordination.Proofs.Registry.Alone
import Mathlib.Data.List.Count

/-!
# Tours of the shards

To count its entries, to count those that are live and to purge it, a thread goes through all shards of
a registry. When nobody else uses the registry, it meets every entry once, since every key belongs to
one shard, and so it answers for the map as a whole.
-/

namespace Coordination

namespace Registry

variable {κ α : Type}

/-- The shard of an entry. -/
def place (registry : Registry κ α) (entry : κ × SlotId) : Nat :=
  registry.shardOf entry.1 % registry.shards

/-- No thread is in any shard. -/
def Idle (registry : Registry κ α) : Prop := ∀ shard, registry.latches.get shard = .free

variable {registry : Registry κ α} {shard : Nat}

theorem Idle.admitsReader (idle : registry.Idle) (shard : Nat) :
    (registry.latches.get shard).admitsReader = true := by
  rw [idle shard]
  rfl

theorem Idle.admitsWriter (idle : registry.Idle) (shard : Nat) :
    (registry.latches.get shard).admitsWriter = true := by
  rw [idle shard]
  rfl

theorem get_modifyLatch (registry : Registry κ α) (shard other : Nat) (change : Latch → Latch) :
    (registry.modifyLatch shard change).latches.get other
      = if shard = other then change (registry.latches.get shard) else registry.latches.get other := by
  simp only [modifyLatch, Table.modify, Table.get_set]

/-- A reader that has come into a shard goes out again. -/
theorem Idle.survey (idle : registry.Idle) (shard : Nat) (party : Party) :
    ((registry.modifyLatch shard (·.enter party)).modifyLatch shard (·.leave party)).Idle := by
  intro other
  rw [get_modifyLatch, get_modifyLatch, if_pos rfl, idle shard]
  split
  · simp [Latch.enter, Latch.leave]
  · rename_i apart
    rw [get_modifyLatch, if_neg apart]
    exact idle other

/-- A purge that has come into a shard goes out again. -/
theorem Idle.vacate (latches : ∀ other, registry.latches.get other ≠ .free → other = shard) :
    (registry.modifyLatch shard fun _ => .free).Idle := by
  intro other
  rw [get_modifyLatch]
  split
  · rfl
  · rename_i apart
    by_contra taken
    exact apart (latches other taken).symm

/-- The entries of a shard and of all that come after it. -/
theorem countP_place (registry : Registry κ α) (holds : κ × SlotId → Bool) (shard : Nat) :
    registry.entries.countP (fun entry => shard ≤ registry.place entry && holds entry)
      = (registry.shard shard).countP holds
        + registry.entries.countP (fun entry => shard + 1 ≤ registry.place entry && holds entry) := by
  have inside : registry.shard shard = registry.entries.filter (registry.place · = shard) := rfl
  rw [inside, List.countP_filter]
  induction registry.entries with
  | nil => rfl
  | cons entry rest ih =>
      simp only [List.countP_cons, ih]
      rcases Nat.lt_trichotomy shard (registry.place entry) with before | same | behind
      · have here : decide (shard ≤ registry.place entry) = true := decide_eq_true (by omega)
        have other : decide (registry.place entry = shard) = false := decide_eq_false (by omega)
        have later : decide (shard + 1 ≤ registry.place entry) = true := decide_eq_true (by omega)
        simp only [here, other, later, Bool.true_and, Bool.and_false, Bool.false_eq_true, if_false]
        omega
      · have here : decide (shard ≤ registry.place entry) = true := decide_eq_true (by omega)
        have own : decide (registry.place entry = shard) = true := decide_eq_true same.symm
        have later : decide (shard + 1 ≤ registry.place entry) = false := decide_eq_false (by omega)
        simp only [here, own, later, Bool.true_and, Bool.and_true, Bool.false_and, Bool.false_eq_true,
          if_false]
        omega
      · have here : decide (shard ≤ registry.place entry) = false := decide_eq_false (by omega)
        have other : decide (registry.place entry = shard) = false := decide_eq_false (by omega)
        have later : decide (shard + 1 ≤ registry.place entry) = false := decide_eq_false (by omega)
        simp only [here, other, later, Bool.false_and, Bool.and_false, Bool.false_eq_true, if_false]
        omega

/-- Behind the last shard there is nothing. -/
theorem countP_place_eq_zero (registry : Registry κ α) (holds : κ × SlotId → Bool)
    (sharded : 0 < registry.shards) :
    registry.entries.countP (fun entry => registry.shards ≤ registry.place entry && holds entry)
      = 0 := by
  refine List.countP_eq_zero.mpr fun entry _ => ?_
  have inside : registry.place entry < registry.shards := Nat.mod_lt _ sharded
  simp [Nat.not_le.mpr inside]

end Registry

namespace RegistrySystem

section Thinning

variable {κ α : Type}

/-- What a purge has made of a map that has some entries that it has still to look at. -/
structure Thinned (before now : Registry κ α) (due : κ × SlotId → Bool) (removed : Nat) : Prop where
  entries : now.entries = before.entries.filter fun entry => due entry || before.countsAsLive entry.2
  counted : removed + now.entries.length = before.entries.length
  shards : now.shards = before.shards
  shardOf : now.shardOf = before.shardOf
  objects : now.objects = before.objects
  lives : ∀ slot, now.countsAsLive slot = before.countsAsLive slot

namespace Thinned

variable {before now : Registry κ α} {due due' : κ × SlotId → Bool} {removed : Nat}

/-- A live entry need not be looked at. -/
theorem congr (thinned : Thinned before now due removed)
    (due' : κ × SlotId → Bool)
    (same : ∀ entry ∈ before.entries, before.countsAsLive entry.2 = false → due entry = due' entry) :
    Thinned before now due' removed := by
  refine { thinned with entries := thinned.entries.trans (List.filter_congr fun entry mem => ?_) }
  cases live : before.countsAsLive entry.2 with
  | true => simp
  | false => rw [same entry mem live]

theorem modifyLatch (thinned : Thinned before now due removed) (shard : Nat)
    (change : Latch → Latch) :
    Thinned before (now.modifyLatch shard change) due removed :=
  ⟨thinned.entries, thinned.counted, thinned.shards, thinned.shardOf, thinned.objects, thinned.lives⟩

end Thinned

end Thinning

variable {κ α : Type} [DecidableEq κ] {system after : RegistrySystem κ α} {thread : ThreadId}
  {registry : Registry κ α} {rest : List (Activity κ)} {held final : List (Reference κ)} {reply : Reply}

/-- A thread has measured all shards. -/
theorem Answers.measure (idle : registry.Idle) (sharded : 0 < registry.shards) {shard count : Nat}
    {wanted : Wanted} (inside : shard ≤ registry.shards)
    (more : Answers thread held
      (system.busy (.caller thread) registry (.measuring registry.shards
        (count + registry.entries.countP fun entry => shard ≤ registry.place entry) wanted :: rest))
      (.proceed thread) reply final after) :
    Answers thread held
      (system.busy (.caller thread) registry (.measuring shard count wanted :: rest))
      (.proceed thread) reply final after := by
  induction ahead : registry.shards - shard generalizing shard count with
  | zero =>
      obtain rfl : shard = registry.shards := by omega
      have none := registry.countP_place_eq_zero (fun _ => true) sharded
      simp only [Bool.and_true] at none
      rwa [none, Nat.add_zero] at more
  | succ further ih =>
      have short : shard < registry.shards := by omega
      refine .go (.measure count wanted short (idle.admitsReader shard)) rfl (ih short ?_ (by omega))
      have here := registry.countP_place (fun _ => true) shard
      simp only [Bool.and_true, List.countP_true] at here
      rwa [here, ← Nat.add_assoc] at more

variable (system thread rest held) in
theorem answers_measuring (idle : registry.Idle) (sharded : 0 < registry.shards) :
    Answers thread held (system.busy (.caller thread) registry (.measuring 0 0 .answer :: rest))
      (.proceed thread) (.count registry.size) held (system.busy (.caller thread) registry rest) := by
  refine .measure idle sharded (Nat.zero_le _) ?_
  have all : registry.entries.countP (fun entry => 0 ≤ registry.place entry) = registry.size := by
    simp [Registry.size]
  rw [all, Nat.zero_add]
  exact .counted (.measured _ (Nat.le_refl _))

/-- A thread has looked at all entries of a shard that it still had to count. -/
theorem Answers.count {shard count : Nat} {left : List (κ × SlotId)}
    (more : Answers thread held
      (system.busy (.caller thread) registry
        (.counting shard [] (count + left.countP fun entry => registry.countsAsLive entry.2) :: rest))
      (.proceed thread) reply final after) :
    Answers thread held
      (system.busy (.caller thread) registry (.counting shard left count :: rest))
      (.proceed thread) reply final after := by
  induction left generalizing count with
  | nil => exact more
  | cons entry left ih =>
      refine .go (.count shard entry left count) rfl (ih ?_)
      rw [List.countP_cons] at more
      cases live : registry.countsAsLive entry.2 with
      | true => simpa [live, Nat.add_assoc, Nat.add_comm 1] using more
      | false => simpa [live] using more

variable (system thread rest held) in
theorem exists_answers_surveying (idle : registry.Idle) (sharded : 0 < registry.shards)
    {shard : Nat} (count : Nat) (inside : shard ≤ registry.shards) :
    ∃ next : Registry κ α, (∃ latches, next = { registry with latches }) ∧ next.Idle ∧
      Answers thread held
        (system.busy (.caller thread) registry (.surveying shard count :: rest)) (.proceed thread)
        (.count (count + registry.entries.countP fun entry =>
          shard ≤ registry.place entry && registry.countsAsLive entry.2))
        held (system.busy (.caller thread) next rest) := by
  induction ahead : registry.shards - shard generalizing registry shard count with
  | zero =>
      obtain rfl : shard = registry.shards := by omega
      rw [registry.countP_place_eq_zero _ sharded, Nat.add_zero]
      exact ⟨registry, ⟨_, rfl⟩, idle, .counted (.surveyed count (Nat.le_refl _))⟩
  | succ further ih =>
      have short : shard < registry.shards := by omega
      have fewer : registry.shards - (shard + 1) = further := by omega
      let count' := count + (registry.shard shard).countP fun entry => registry.countsAsLive entry.2
      rcases ih (idle.survey shard (.caller thread)) sharded count' short fewer with
        ⟨next, ⟨latches, same⟩, silent, answers⟩
      refine ⟨next, ⟨latches, same⟩, silent, ?_⟩
      have here := registry.countP_place (fun entry => registry.countsAsLive entry.2) shard
      rw [here, ← Nat.add_assoc]
      refine .go (.visit count short (idle.admitsReader shard)) rfl (.count ?_)
      exact .go (.leave shard _) rfl answers

section Purging

namespace Thinned

variable {before now : Registry κ α} {due due' : κ × SlotId → Bool} {removed : Nat}

/-- A dead entry is taken out of the map. -/
theorem unlink (thinned : Thinned before now due removed) (keys : (before.entries.map (·.1)).Nodup)
    {key : κ} {slot : SlotId} (mem : (key, slot) ∈ before.entries) (waits : due (key, slot) = true)
    (dead : before.countsAsLive slot = false) (due' : κ × SlotId → Bool)
    (others : ∀ entry ∈ before.entries, due' entry = (due entry && entry ≠ (key, slot))) :
    Thinned before ((now.modifySlot slot fun place => { place with retired := true }).unlink key) due'
      (removed + 1) := by
  have named (entry : κ × SlotId) (listed : entry ∈ before.entries) :
      entry.1 = key ↔ entry = (key, slot) :=
    ⟨fun same => List.inj_on_of_nodup_map keys listed mem same, fun same => congrArg Prod.fst same⟩
  have entries : ((now.modifySlot slot fun place => { place with retired := true }).unlink key).entries
      = now.entries.filter fun entry => entry.1 ≠ key := rfl
  have here : (key, slot) ∈ now.entries := by
    rw [thinned.entries, List.mem_filter]
    exact ⟨mem, by simp [waits]⟩
  have distinct : now.entries.Nodup := by
    rw [thinned.entries]
    exact keys.of_map.filter _
  refine ⟨?_, ?_, thinned.shards, thinned.shardOf, thinned.objects, fun other => ?_⟩
  · rw [entries, thinned.entries, List.filter_filter]
    refine List.filter_congr fun entry listed => ?_
    rw [others entry listed]
    by_cases own : entry = (key, slot)
    · simp [own, dead]
    · simp [own, mt (named entry listed).mp own]
  · have erased : now.entries.filter (fun entry => entry.1 ≠ key) = now.entries.erase (key, slot) := by
      rw [distinct.erase_eq_filter]
      refine List.filter_congr fun entry listed => ?_
      rw [thinned.entries] at listed
      have same := named entry (List.mem_filter.mp listed).1
      by_cases own : entry = (key, slot)
      · simp [own]
      · simp [own, mt same.mp own]
    rw [entries, erased, List.length_erase_of_mem here]
    have some := List.length_pos_of_mem here
    have counted := thinned.counted
    omega
  · rw [← thinned.lives other]
    simp only [Registry.countsAsLive, Registry.unlink, Registry.get_modifySlot]
    split
    · rename_i same
      rw [same]
      rfl
    · rfl

end Thinned

variable {before now : Registry κ α}

/-- A purge has looked at all entries of a shard. -/
theorem exists_answers_sweeping {shard removed : Nat} {left : List (κ × SlotId)}
    (keys : (before.entries.map (·.1)).Nodup)
    (thinned : Thinned before now
      (fun entry => decide (shard < before.place entry ∨ entry ∈ left)) removed)
    (distinct : left.Nodup)
    (inside : ∀ entry ∈ left, entry ∈ before.entries ∧ before.place entry = shard) :
    ∃ next removed', next.latches = now.latches ∧
      Thinned before next (fun entry => decide (shard < before.place entry)) removed' ∧
      ∀ {reply final after},
        Answers thread held
          (system.busy (.caller thread) next (.sweeping shard [] removed' :: rest))
          (.proceed thread) reply final after →
        Answers thread held
          (system.busy (.caller thread) now (.sweeping shard left removed :: rest))
          (.proceed thread) reply final after := by
  induction left generalizing now removed with
  | nil => exact ⟨now, removed, rfl, thinned.congr _ fun _ _ _ => by simp, fun answers => answers⟩
  | cons first left ih =>
      rcases first with ⟨key, slot⟩
      have new := (List.nodup_cons.mp distinct).1
      have others := fun entry mem => inside entry (List.mem_cons_of_mem (key, slot) mem)
      rcases inside (key, slot) List.mem_cons_self with ⟨mem, own⟩
      cases live : before.countsAsLive slot with
      | true =>
          have same := thinned.congr
            (fun entry => decide (shard < before.place entry ∨ entry ∈ left)) ?_
          · rcases ih same distinct.of_cons others with ⟨next, removed', latches, whole, goes⟩
            refine ⟨next, removed', latches, whole, fun answers => ?_⟩
            exact .go (.skip shard left removed ((thinned.lives slot).trans live)) rfl (goes answers)
          · intro entry _ dead
            have apart : entry ≠ (key, slot) := by
              rintro rfl
              rw [live] at dead
              cases dead
            simp [apart]
      | false =>
          have fewer := thinned.unlink keys mem (by simp) live
            (fun entry => decide (shard < before.place entry ∨ entry ∈ left)) ?_
          · rcases ih fewer distinct.of_cons others with ⟨next, removed', latches, whole, goes⟩
            refine ⟨next, removed', latches, whole, fun answers => ?_⟩
            refine .go (.retire shard key left removed ((thinned.lives slot).trans live)) rfl ?_
            exact .go (.unlink key shard left (removed + 1)) rfl (goes answers)
          · intro entry _
            by_cases same : entry = (key, slot)
            · simp [same, own, new]
            · simp [same]

variable (system thread rest held) in
/-- A purge answers with the number of the entries that it has taken out: all that were dead. -/
theorem exists_answers_approaching {shard removed : Nat} (keys : (before.entries.map (·.1)).Nodup)
    (sharded : 0 < before.shards) (idle : now.Idle) (inside : shard ≤ before.shards)
    (thinned : Thinned before now (fun entry => decide (shard ≤ before.place entry)) removed) :
    ∃ next removed', next.Idle ∧ Thinned before next (fun _ => false) removed' ∧
      Answers thread held
        (system.busy (.caller thread) now (.approaching shard removed :: rest))
        (.proceed thread) (.count removed') held (system.busy (.caller thread) next rest) := by
  induction ahead : before.shards - shard generalizing now shard removed with
  | zero =>
      obtain rfl : shard = before.shards := by omega
      have outside : now.shards ≤ before.shards := Nat.le_of_eq thinned.shards
      refine ⟨now, removed, idle, thinned.congr _ fun entry _ _ => ?_, ?_⟩
      · have home : before.place entry < before.shards := Nat.mod_lt _ sharded
        simp [home]
      · rcases Nat.eq_zero_or_pos removed with rfl | some
        · exact .counted (.purged outside)
        · refine .go (.report outside (Nat.ne_of_gt some)) rfl ?_
          refine .measure idle (thinned.shards ▸ sharded) (Nat.zero_le _) ?_
          exact .counted (.logged _ removed (Nat.le_refl _))
  | succ further ih =>
      have short : shard < before.shards := by omega
      have place (entry : κ × SlotId) : now.place entry = before.place entry := by
        rw [Registry.place, thinned.shards, thinned.shardOf, ← Registry.place]
      have listed (entry : κ × SlotId) : entry ∈ now.shard shard ↔
          entry ∈ now.entries ∧ before.place entry = shard := by
        rw [← place]
        exact List.mem_filter.trans (and_congr_right fun _ => decide_eq_true_iff)
      have here : ∀ entry ∈ now.entries, entry ∈ before.entries := by
        intro entry mem
        rw [thinned.entries] at mem
        exact (List.mem_filter.mp mem).1
      have distinct : (now.shard shard).Nodup := by
        refine List.Nodup.filter _ ?_
        rw [thinned.entries]
        exact keys.of_map.filter _
      have occupied := (thinned.modifyLatch shard fun _ => .exclusive (.caller thread)).congr
        (fun entry => decide (shard < before.place entry ∨ entry ∈ now.shard shard)) ?_
      · rcases exists_answers_sweeping keys occupied distinct fun entry mem =>
          ⟨here entry ((listed entry).mp mem).1, ((listed entry).mp mem).2⟩ with
          ⟨next, removed', latches, whole, goes⟩
        have vacated : (next.modifyLatch shard fun _ => .free).Idle := by
          refine .vacate fun other taken => ?_
          rw [latches, Registry.get_modifyLatch] at taken
          by_contra apart
          rw [if_neg (Ne.symm apart)] at taken
          exact taken (idle other)
        rcases ih vacated short (whole.modifyLatch shard fun _ => .free) (by omega) with
          ⟨final, total, silent, rest, answers⟩
        refine ⟨final, total, silent, rest, ?_⟩
        refine .go (.occupy removed (thinned.shards ▸ short) (idle.admitsWriter shard)) rfl ?_
        exact goes (.go (.vacate shard removed') rfl answers)
      · intro entry mem _
        by_cases own : before.place entry = shard
        · have still : entry ∈ now.shard shard := by
            refine (listed entry).mpr ⟨?_, own⟩
            rw [thinned.entries, List.mem_filter]
            exact ⟨mem, by simp [own]⟩
          simp [own, still]
        · have absent : entry ∉ now.shard shard := fun mem => own ((listed entry).mp mem).2
          simp only [absent, or_false, decide_eq_decide]
          omega

end Purging

end RegistrySystem

end Coordination
