import Coordination.Proofs.Registry.Locking
import Coordination.Proofs.Registry.Tours

/-!
# The latches of shards

A party holds the latch of a shard only while it looks at the entries of that shard, be it alone or as one
of several readers (`latched_of_reachable`). So a party that holds a latch has something to do that it need
not wait for: the next entry is there, and the lock of its slot is only tried.
-/

namespace Coordination

namespace Latch

/-- The parties that hold a latch. -/
def holders : Latch → List Party
  | .free => []
  | .shared readers => readers
  | .exclusive owner => [owner]

variable {latch : Latch}

theorem eq_free_of_holders (manned : latch ≠ .shared []) (nobody : latch.holders = []) : latch = .free := by
  cases latch with
  | free => rfl
  | shared readers => exact absurd (congrArg Latch.shared nobody) manned
  | exclusive owner => cases nobody

theorem exists_holder_of_reader (full : latch.admitsReader = false) : ∃ party, party ∈ latch.holders := by
  cases latch with
  | free | shared => cases full
  | exclusive owner => exact ⟨owner, List.mem_cons_self⟩

theorem exists_holder_of_writer (manned : latch ≠ .shared []) (full : latch.admitsWriter = false) :
    ∃ party, party ∈ latch.holders := by
  cases latch with
  | free => cases full
  | shared readers => exact List.exists_mem_of_ne_nil readers fun none => manned (none ▸ rfl)
  | exclusive owner => exact ⟨owner, List.mem_cons_self⟩

theorem holders_enter (admits : latch.admitsReader = true) (reader : Party) :
    (latch.enter reader).holders = reader :: latch.holders := by
  cases latch with
  | free | shared => rfl
  | exclusive => cases admits

theorem holders_leave (admits : latch.admitsReader = true) (reader : Party) :
    (latch.leave reader).holders = latch.holders.erase reader := by
  cases latch with
  | free => rfl
  | shared readers => by_cases last : readers.erase reader = [] <;> simp [leave, holders, last]
  | exclusive => cases admits

theorem leave_of_not_admitsReader (alone : latch.admitsReader = false) (reader : Party) :
    latch.leave reader = latch := by
  cases latch with
  | free | shared => cases alone
  | exclusive => rfl

theorem admitsReader_enter (reader : Party) : (latch.enter reader).admitsReader = latch.admitsReader := by
  cases latch <;> rfl

theorem admitsReader_leave (reader : Party) : (latch.leave reader).admitsReader = latch.admitsReader := by
  cases latch with
  | shared readers =>
      simp only [leave]
      split <;> rfl
  | free | exclusive => rfl

theorem manned_enter (reader : Party) : latch.enter reader ≠ .shared [] := by
  cases latch <;> simp [enter]

theorem manned_leave (manned : latch ≠ .shared []) (reader : Party) : latch.leave reader ≠ .shared [] := by
  cases latch with
  | shared readers =>
      simp only [leave]
      split <;> simp_all
  | free | exclusive => simp [leave]

end Latch

namespace RegistrySystem

variable {κ α : Type}

/-- A party is in the middle of something for which it holds the latch of a shard. -/
def Grips (stack : List (Activity κ)) (shard : Nat) (latch : Latch) : Prop :=
  ∃ activity, stack.head? = some activity ∧ activity.latch? = some shard ∧
    activity.isLoose = latch.admitsReader

theorem Grips.congr {stack : List (Activity κ)} {shard : Nat} {latch other : Latch}
    (grips : Grips stack shard latch) (same : other.admitsReader = latch.admitsReader) :
    Grips stack shard other := by
  rcases grips with ⟨activity, doing, inside, kind⟩
  exact ⟨activity, doing, inside, kind.trans same.symm⟩

/-- Every latch is held by those that are in its shard. -/
structure Latched (registry : Registry κ α) (frames : Party → List (Activity κ)) : Prop where
  held : ∀ shard, ∀ party ∈ (registry.latches.get shard).holders,
    Grips (frames party) shard (registry.latches.get shard)
  distinct : ∀ shard, (registry.latches.get shard).holders.Nodup
  manned : ∀ shard, registry.latches.get shard ≠ .shared []

section Changing

variable {registry after : Registry κ α} {frames next : Party → List (Activity κ)} {party : Party}
  {activity : Activity κ} {stack : List (Activity κ)} {shard : Nat}

/-- A party that is in no other shard holds no other latch. -/
theorem Latched.not_mem (latched : Latched registry frames) (doing : (frames party).head? = some activity)
    (apart : activity.latch? ≠ some shard) : party ∉ (registry.latches.get shard).holders := by
  intro mem
  rcases latched.held shard party mem with ⟨other, same, inside, _⟩
  cases doing.symm.trans same
  exact apart inside

/-- A party that leaves the latches alone stays in its shard. -/
theorem Latched.keep (latched : Latched registry frames) (latches : after.latches = registry.latches)
    (others : ∀ other, party ≠ other → next other = frames other)
    (stays : ∀ shard latch, Grips (frames party) shard latch → Grips (next party) shard latch) :
    Latched after next := by
  refine ⟨?_, ?_, ?_⟩
  · rw [latches]
    intro shard other mem
    have grips := latched.held shard other mem
    by_cases own : party = other
    · exact own ▸ stays shard _ (own ▸ grips)
    · rw [others other own]
      exact grips
  · rw [latches]
    exact latched.distinct
  · rw [latches]
    exact latched.manned

/-- A party that holds no other latch changes one. -/
theorem Latched.modify (latched : Latched registry frames) {change : Latch → Latch}
    (others : ∀ other, party ≠ other → next other = frames other)
    (alone : ∀ other, shard ≠ other → party ∉ (registry.latches.get other).holders)
    (held : ∀ other ∈ (change (registry.latches.get shard)).holders,
      Grips (next other) shard (change (registry.latches.get shard)))
    (distinct : (change (registry.latches.get shard)).holders.Nodup)
    (manned : change (registry.latches.get shard) ≠ .shared []) :
    Latched (registry.modifyLatch shard change) next := by
  refine ⟨?_, ?_, ?_⟩
  · intro place other mem
    rw [Registry.get_modifyLatch] at mem ⊢
    split at mem
    · rename_i same
      rw [if_pos same]
      exact same ▸ held other mem
    · rename_i apart
      rw [if_neg apart, others other (fun own => alone place apart (own ▸ mem))]
      exact latched.held place other mem
  · intro place
    rw [Registry.get_modifyLatch]
    split
    · exact distinct
    · exact latched.distinct place
  · intro place
    rw [Registry.get_modifyLatch]
    split
    · exact manned
    · exact latched.manned place

/-- The other readers of a shard are still inside when one comes or goes. -/
theorem Latched.grips_of_mem (latched : Latched registry frames)
    (others : ∀ other, party ≠ other → next other = frames other) {latch : Latch}
    (same : latch.admitsReader = (registry.latches.get shard).admitsReader) {other : Party}
    (mem : other ∈ (registry.latches.get shard).holders) (apart : party ≠ other) :
    Grips (next other) shard latch := by
  rw [others other apart]
  exact (latched.held shard other mem).congr same

/-- A reader that holds no latch comes into a shard. -/
theorem Latched.enter (latched : Latched registry frames)
    (others : ∀ other, party ≠ other → next other = frames other)
    (outside : ∀ shard, party ∉ (registry.latches.get shard).holders)
    (admits : (registry.latches.get shard).admitsReader = true)
    (reads : ∃ activity, (next party).head? = some activity ∧ activity.latch? = some shard ∧
      activity.isLoose = true) :
    Latched (registry.modifyLatch shard (·.enter party)) next := by
  have same : ((registry.latches.get shard).enter party).admitsReader
      = (registry.latches.get shard).admitsReader := Latch.admitsReader_enter party
  refine latched.modify others (fun other _ => outside other) ?_ ?_ (Latch.manned_enter party)
  · intro other mem
    rw [Latch.holders_enter admits] at mem
    rcases List.mem_cons.mp mem with rfl | mem
    · rcases reads with ⟨activity, doing, inside, loose⟩
      exact ⟨activity, doing, inside, loose.trans (same.trans admits).symm⟩
    · exact latched.grips_of_mem others same mem fun mine => outside shard (mine ▸ mem)
  · rw [Latch.holders_enter admits]
    exact List.nodup_cons.mpr ⟨outside shard, latched.distinct shard⟩

/-- A reader leaves its shard. -/
theorem Latched.leave (latched : Latched registry frames)
    (others : ∀ other, party ≠ other → next other = frames other)
    (doing : (frames party).head? = some activity) (inside : activity.latch? = some shard)
    (loose : activity.isLoose = true) :
    Latched (registry.modifyLatch shard (·.leave party)) next := by
  have alone (other : Nat) (apart : shard ≠ other) : party ∉ (registry.latches.get other).holders := by
    refine latched.not_mem doing ?_
    rw [inside]
    exact fun same => apart (Option.some.inj same)
  have same : ((registry.latches.get shard).leave party).admitsReader
      = (registry.latches.get shard).admitsReader := Latch.admitsReader_leave party
  have manned := Latch.manned_leave (latched.manned shard) party
  cases admits : (registry.latches.get shard).admitsReader with
  | true =>
      refine latched.modify others alone ?_ ?_ manned
      · intro other mem
        rw [Latch.holders_leave admits] at mem
        rcases (latched.distinct shard).mem_erase_iff.mp mem with ⟨mine, mem⟩
        exact latched.grips_of_mem others same mem mine.symm
      · rw [Latch.holders_leave admits]
        exact (latched.distinct shard).erase party
  | false =>
      -- A writer is inside, so the reader is not, and nothing changes.
      have absent : party ∉ (registry.latches.get shard).holders := by
        intro mem
        rcases latched.held shard party mem with ⟨other, does, _, kind⟩
        cases doing.symm.trans does
        cases loose.symm.trans (kind.trans admits)
      have unchanged := Latch.leave_of_not_admitsReader admits party
      refine latched.modify others alone ?_ ?_ manned
      · intro other mem
        rw [unchanged] at mem
        exact latched.grips_of_mem others same mem fun mine => absent (mine ▸ mem)
      · rw [unchanged]
        exact latched.distinct shard

/-- No change of a party breaks the order of the latches. -/
theorem Latched.of_change [DecidableEq κ] {gain : Option (Reference κ)} (latched : Latched registry frames)
    (change : Change registry party (frames party) after (next party) gain)
    (others : ∀ other, party ≠ other → next other = frames other) : Latched after next := by
  have outside {activity : Activity κ} {stack : List (Activity κ)}
      (doing : frames party = activity :: stack) (apart : activity.latch? = none) (shard : Nat) :
      party ∉ (registry.latches.get shard).holders :=
    latched.not_mem (by rw [doing]; rfl) (by rw [apart]; exact Option.some_ne_none shard ∘ Eq.symm)
  have vacuous {stack : List (Activity κ)} (same : frames party = stack)
      (apart : ∀ activity, stack.head? = some activity → activity.latch? = none) (shard : Nat)
      (latch : Latch) (grips : Grips (frames party) shard latch) : Grips (next party) shard latch := by
    rcases grips with ⟨activity, doing, inside, _⟩
    rw [same] at doing
    cases (apart activity doing).symm.trans inside
  generalize before : frames party = former at change
  generalize following : next party = later at change
  cases change with
  | begin ready loose outside =>
      refine latched.keep rfl others (vacuous before ?_)
      intro activity doing
      rw [doing, Option.all_some] at ready
      cases activity with
      | building => rfl
      | _ => cases ready
  | turn stack loose looseNext stays =>
      refine latched.keep rfl others ?_
      rintro shard latch ⟨activity, doing, inside, kind⟩
      rw [before] at doing
      cases doing
      rw [following]
      exact ⟨_, rfl, stays.trans inside, looseNext.trans (loose.symm.trans kind)⟩
  | finish stack loose apart =>
      exact latched.keep rfl others (vacuous before (by rintro _ ⟨⟩; exact apart))
  | publish | fail | find | retry | join | lock =>
      exact latched.keep rfl others (vacuous before (by rintro _ ⟨⟩; rfl))
  | @insert key stack free =>
      have latches : (registry.insert key).1.latches = registry.latches := by
        simp only [Registry.insert]
        split <;> rfl
      exact latched.keep latches others (vacuous before (by rintro _ ⟨⟩; rfl))
  | skip | retire | unlink =>
      refine latched.keep rfl others ?_
      rintro shard latch ⟨activity, doing, inside, kind⟩
      rw [before] at doing
      cases doing
      rw [following]
      exact ⟨_, rfl, inside, kind⟩
  | @occupy shard removed stack free =>
      refine latched.modify others (fun other _ => outside before rfl other) ?_ ?_ (by simp)
      · intro other mem
        cases List.mem_singleton.mp mem
        rw [following]
        exact ⟨_, rfl, rfl, rfl⟩
      · exact List.nodup_singleton party
  | vacate shard removed stack =>
      refine latched.modify others ?_ ?_ List.nodup_nil (by simp)
      · intro other apart
        refine latched.not_mem (by rw [before]; rfl) ?_
        exact fun same => apart (Option.some.inj same)
      · intro other mem
        cases mem
  | @pass activity later stack shard change loose looseNext keeps passes =>
      have doing : (frames party).head? = some activity := by rw [before]; rfl
      rcases passes with ⟨admits, apart, inside, rfl⟩ | ⟨inside, rfl⟩
      · refine latched.enter others (outside before apart) admits ⟨later, ?_, inside, looseNext⟩
        rw [following]
        rfl
      · exact latched.leave others doing inside loose

end Changing

variable [DecidableEq κ] {held next : List (Reference κ)} {system after : RegistrySystem κ α}

theorem Latched.of_transition (latched : Latched system.registry system.stack)
    (transition : Transition system held after next) : Latched after.registry after.stack := by
  have frames (same : ∀ party, after.stack party = system.stack party)
      (latches : after.registry.latches = system.registry.latches) :
      Latched after.registry after.stack := by
    rw [funext same]
    refine ⟨?_, ?_, ?_⟩ <;> rw [latches]
    · exact latched.held
    · exact latched.distinct
    · exact latched.manned
  cases transition with
  | change party changes gains => exact latched.of_change changes.change changes.others
  | clone mem refers same => exact frames same (by rw [refers]; rfl)
  | drop listed releases same => exact frames same (by rw [releases]; rfl)
  | rest untouched same => exact frames same (congrArg Registry.latches untouched)

theorem latched_of_reachable (reachable : Reachable held system) :
    Latched system.registry system.stack := by
  induction reachable with
  | new shards shardOf =>
      refine ⟨?_, ?_, ?_⟩
      · rintro shard party ⟨⟩
      · exact fun shard => List.nodup_nil
      · rintro shard ⟨⟩
  | step reached performed ih =>
      exact ih.of_transition ((invariant_of_reachable reached).transition performed)

end RegistrySystem

end Coordination
