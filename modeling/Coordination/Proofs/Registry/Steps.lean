import Coordination.Proofs.Registry.Schedule

/-!
# The steps of a party

`Advance` lists the steps of a party that goes on with its innermost activity, each with its guard and with
what it leads to, and `Wake` lists those of a reaper. These are all the steps there are
(`proceed_eq_some_iff`, `reap_eq_some_iff`), so what a step keeps is proved by cases.
-/

namespace Coordination.RegistrySystem

variable {κ α : Type} [DecidableEq κ]

/-- The steps of a party that goes on with its innermost activity. -/
inductive Advance (system : RegistrySystem κ α) (party : Party) : Activity κ → Stepped κ α → Prop where
  | find {key : κ} {slot : SlotId} (free : (system.registry.latchOf key).admitsReader = true)
      (found : system.registry.find key = some slot) :
      Advance system party (.lookingUp key) { state := system.turnTo party (.entering key slot) }
  | miss {key : κ} (free : (system.registry.latchOf key).admitsReader = true)
      (absent : system.registry.find key = none) :
      Advance system party (.lookingUp key) { state := system.turnTo party (.inserting key) }
  | insert {key : κ} (free : (system.registry.latchOf key).admitsWriter = true) :
      Advance system party (.inserting key)
        { state := (system.modify fun registry => (registry.insert key).1).turnTo party
            (.entering key (system.registry.insert key).2) }
  | retry {key : κ} {slot : SlotId} (unlocked : (system.registry.slots.get slot).holder = none)
      (retired : (system.registry.slots.get slot).retired = true) :
      Advance system party (.entering key slot) { state := system.turnTo party (.lookingUp key) }
  | join {key : κ} {slot : SlotId} {object : ObjectId}
      (unlocked : (system.registry.slots.get slot).holder = none)
      (usable : (system.registry.slots.get slot).retired = false)
      (alive : system.registry.live? (system.registry.slots.get slot) = some object) :
      Advance system party (.entering key slot)
        ((system.modify (·.refer object)).finish party (.object object) [])
  | lock {key : κ} {slot : SlotId} (unlocked : (system.registry.slots.get slot).holder = none)
      (usable : (system.registry.slots.get slot).retired = false)
      (dead : system.registry.live? (system.registry.slots.get slot) = none) :
      Advance system party (.entering key slot)
        { state :=
            (system.modify (·.modifySlot slot fun slot => { slot with holder := some party })).turnTo
              party (.building key slot),
          reply := some .build }
  | occupy {shard : Nat} (removed : Nat) (inside : shard < system.registry.shards)
      (free : (system.registry.latches.get shard).admitsWriter = true) :
      Advance system party (.approaching shard removed)
        { state :=
            (system.modify (·.modifyLatch shard fun _ => .exclusive party)).turnTo party
              (.sweeping shard (system.registry.shard shard) removed) }
  | skip (shard : Nat) {entry : κ × SlotId} (left : List (κ × SlotId)) (removed : Nat)
      (live : system.registry.countsAsLive entry.2 = true) :
      Advance system party (.sweeping shard (entry :: left) removed)
        { state := system.turnTo party (.sweeping shard left removed) }
  | retire (shard : Nat) (key : κ) {slot : SlotId} (left : List (κ × SlotId)) (removed : Nat)
      (dead : system.registry.countsAsLive slot = false) :
      Advance system party (.sweeping shard ((key, slot) :: left) removed)
        { state :=
            (system.modify (·.modifySlot slot fun slot => { slot with retired := true })).turnTo party
              (.unlinking key shard left (removed + 1)) }
  | unlink (key : κ) (shard : Nat) (left : List (κ × SlotId)) (removed : Nat) :
      Advance system party (.unlinking key shard left removed)
        { state := (system.modify (·.unlink key)).turnTo party (.sweeping shard left removed) }
  | vacate (shard removed : Nat) :
      Advance system party (.sweeping shard [] removed)
        { state :=
            (system.modify (·.modifyLatch shard fun _ => .free)).turnTo party
              (.approaching (shard + 1) removed) }
  /-- A purge that has removed nothing is not logged. -/
  | purged {shard : Nat} (outside : system.registry.shards ≤ shard) :
      Advance system party (.approaching shard 0) (system.finish party (.count 0) [])
  | report {shard removed : Nat} (outside : system.registry.shards ≤ shard) (some : removed ≠ 0) :
      Advance system party (.approaching shard removed)
        { state := system.turnTo party (.measuring 0 0 (.log removed)) }
  | measure {shard : Nat} (count : Nat) (wanted : Wanted) (inside : shard < system.registry.shards)
      (free : (system.registry.latches.get shard).admitsReader = true) :
      Advance system party (.measuring shard count wanted)
        { state :=
            system.turnTo party
              (.measuring (shard + 1) (count + (system.registry.shard shard).length) wanted) }
  | measured {shard : Nat} (count : Nat) (outside : system.registry.shards ≤ shard) :
      Advance system party (.measuring shard count .answer) (system.finish party (.count count) [])
  | logged {shard : Nat} (count removed : Nat) (outside : system.registry.shards ≤ shard) :
      Advance system party (.measuring shard count (.log removed))
        (system.finish party (.count removed) [purgedEntry removed count])
  | visit {shard : Nat} (count : Nat) (inside : shard < system.registry.shards)
      (free : (system.registry.latches.get shard).admitsReader = true) :
      Advance system party (.surveying shard count)
        { state :=
            (system.modify (·.modifyLatch shard (·.enter party))).turnTo party
              (.counting shard (system.registry.shard shard) count) }
  | count (shard : Nat) (entry : κ × SlotId) (left : List (κ × SlotId)) (count : Nat) :
      Advance system party (.counting shard (entry :: left) count)
        { state :=
            system.turnTo party (.counting shard left
              (if system.registry.countsAsLive entry.2 then count + 1 else count)) }
  | leave (shard count : Nat) :
      Advance system party (.counting shard [] count)
        { state :=
            (system.modify (·.modifyLatch shard (·.leave party))).turnTo party
              (.surveying (shard + 1) count) }
  | surveyed {shard : Nat} (count : Nat) (outside : system.registry.shards ≤ shard) :
      Advance system party (.surveying shard count) (system.finish party (.count count) [])
  | joined {id : Nat} (ended : system.reapers[id]?.any (·.phase ≠ .ended) = false) :
      Advance system party (.joining id) (system.finish party .done [])

/-- The steps of a reaper. -/
inductive Wake (system : RegistrySystem κ α) (now : Instant) (id : Nat) (reaper : Reaper) :
    Stepped κ α → Prop where
  | start (starts : reaper.phase = .starting) :
      Wake system now id reaper { state := system.rest now id, log := [startedEntry reaper.interval] }
  | sweep {deadline : Instant} (waits : reaper.phase = .waiting deadline)
      (unstopped : reaper.stopped = false) (late : deadline ≤ now) (owned : system.isOwned = true) :
      Wake system now id reaper
        { state :=
            (system.modifyReaper id fun reaper => { reaper with phase := .purging }).push (.agent id)
              (.approaching 0 0) }
  | ends {deadline : Instant} (waits : reaper.phase = .waiting deadline)
      (reason : reaper.stopped = true ∨ deadline ≤ now ∧ system.isOwned = false) :
      Wake system now id reaper (system.endReaper id)
  | purge {inner : Stepped κ α} (purges : reaper.phase = .purging)
      (proceeded : system.proceed (.agent id) = some inner) (silent : inner.reply = none) :
      Wake system now id reaper inner
  /-- The sweep is over. -/
  | rest {inner : Stepped κ α} {reply : Reply} (purges : reaper.phase = .purging)
      (proceeded : system.proceed (.agent id) = some inner) (replies : inner.reply = some reply) :
      Wake system now id reaper { inner with state := inner.state.rest now id, reply := none }

variable {system : RegistrySystem κ α} {party : Party} {activity : Activity κ} {stepped : Stepped κ α}
  {now : Instant} {id : Nat} {reaper : Reaper}

section Proceeding

theorem advance_of_enter {key : κ} {slot : SlotId}
    (entered : system.enter party key slot = some stepped) :
    Advance system party (.entering key slot) stepped := by
  simp only [enter] at entered
  split at entered
  · cases entered
  · rename_i unlocked
    rw [Option.not_isSome_iff_eq_none] at unlocked
    split at entered
    · rename_i retired
      obtain rfl := Option.some.inj entered
      exact .retry unlocked retired
    · rename_i usable
      rw [Bool.not_eq_true] at usable
      split at entered
      · rename_i object alive
        obtain rfl := Option.some.inj entered
        exact .join unlocked usable alive
      · rename_i dead
        obtain rfl := Option.some.inj entered
        exact .lock unlocked usable dead

theorem advance_sweep (shard removed : Nat) (left : List (κ × SlotId)) :
    Advance system party (.sweeping shard left removed) (system.sweep party shard removed left) := by
  cases left with
  | nil => exact .vacate shard removed
  | cons entry left =>
      cases live : system.registry.countsAsLive entry.2 with
      | true =>
          simp only [sweep, live, if_true]
          exact .skip shard left removed live
      | false =>
          simp only [sweep, live, Bool.false_eq_true, if_false]
          exact .retire shard entry.1 left removed live

theorem advance_endPurge {shard : Nat} (removed : Nat) (outside : system.registry.shards ≤ shard) :
    Advance system party (.approaching shard removed) (system.endPurge party removed) := by
  unfold endPurge
  split
  · rename_i none
    subst none
    exact .purged outside
  · rename_i some
    exact .report outside some

theorem advance_of_proceed (doing : system.activity? party = some activity)
    (proceeded : system.proceed party = some stepped) : Advance system party activity stepped := by
  simp only [proceed, doing] at proceeded
  cases activity with
  | lookingUp key =>
      simp only [Option.ite_none_right_eq_some, Option.some.injEq] at proceeded
      rcases proceeded with ⟨free, rfl⟩
      cases found : system.registry.find key with
      | some slot => exact .find free found
      | none => exact .miss free found
  | inserting key =>
      simp only [Option.ite_none_right_eq_some, Option.some.injEq] at proceeded
      rcases proceeded with ⟨free, rfl⟩
      exact .insert free
  | entering key slot => exact advance_of_enter proceeded
  | building key slot => cases proceeded
  | approaching shard removed =>
      simp only at proceeded
      split at proceeded
      · rename_i outside
        obtain rfl := Option.some.inj proceeded
        exact advance_endPurge removed outside
      · rename_i inside
        simp only [Option.ite_none_right_eq_some, Option.some.injEq] at proceeded
        rcases proceeded with ⟨free, rfl⟩
        exact .occupy removed (Nat.not_le.mp inside) free
  | sweeping shard left removed =>
      obtain rfl := Option.some.inj proceeded
      exact advance_sweep shard removed left
  | unlinking key shard left removed =>
      obtain rfl := Option.some.inj proceeded
      exact .unlink key shard left removed
  | surveying shard count =>
      simp only at proceeded
      split at proceeded
      · rename_i outside
        obtain rfl := Option.some.inj proceeded
        exact .surveyed count outside
      · rename_i inside
        simp only [Option.ite_none_right_eq_some, Option.some.injEq] at proceeded
        rcases proceeded with ⟨free, rfl⟩
        exact .visit count (Nat.not_le.mp inside) free
  | counting shard left count =>
      cases left with
      | nil =>
          obtain rfl := Option.some.inj proceeded
          exact .leave shard count
      | cons entry left =>
          obtain rfl := Option.some.inj proceeded
          exact .count shard entry left count
  | measuring shard count wanted =>
      simp only at proceeded
      split at proceeded
      · rename_i outside
        cases wanted with
        | answer =>
            obtain rfl := Option.some.inj proceeded
            exact .measured count outside
        | log removed =>
            obtain rfl := Option.some.inj proceeded
            exact .logged count removed outside
      · rename_i inside
        simp only [Option.ite_none_right_eq_some, Option.some.injEq] at proceeded
        rcases proceeded with ⟨free, rfl⟩
        exact .measure count wanted (Nat.not_le.mp inside) free
  | joining id =>
      simp only [Option.ite_none_left_eq_some, Option.some.injEq, Bool.not_eq_true] at proceeded
      rcases proceeded with ⟨ended, rfl⟩
      exact .joined ended

theorem Advance.proceeds (advance : Advance system party activity stepped)
    (doing : system.activity? party = some activity) : system.proceed party = some stepped := by
  cases advance with
  | find free found => simp [proceed, doing, free, found]
  | miss free absent => simp [proceed, doing, free, absent]
  | insert free =>
      simp only [proceed, doing, free, if_true]
      rfl
  | retry unlocked retired => simp [proceed, doing, enter, unlocked, retired]
  | join unlocked usable alive => simp [proceed, doing, enter, unlocked, usable, alive]
  | lock unlocked usable dead => simp [proceed, doing, enter, unlocked, usable, dead]
  | occupy removed inside free => simp [proceed, doing, Nat.not_le.mpr inside, free]
  | skip shard left removed live => simp [proceed, doing, sweep, live]
  | retire shard key left removed dead => simp [proceed, doing, sweep, dead]
  | unlink | vacate | leave | count => simp [proceed, doing, sweep]
  | purged outside => simp [proceed, doing, outside, endPurge]
  | report outside some => simp [proceed, doing, outside, endPurge, some]
  | measure count wanted inside free | visit count inside free =>
      simp [proceed, doing, Nat.not_le.mpr inside, free]
  | measured count outside | logged count removed outside | surveyed count outside =>
      simp [proceed, doing, outside]
  | joined ended =>
      simp only [proceed, doing, ended]
      rfl

/-- A party in the middle of something makes the steps of its innermost activity. -/
theorem proceed_eq_some_iff (doing : system.activity? party = some activity) :
    system.proceed party = some stepped ↔ Advance system party activity stepped :=
  ⟨advance_of_proceed doing, fun advance => advance.proceeds doing⟩

/-- Whoever goes on is in the middle of something. -/
theorem exists_advance (proceeded : system.proceed party = some stepped) :
    ∃ activity rest, system.stack party = activity :: rest ∧ Advance system party activity stepped := by
  cases doing : system.stack party with
  | nil =>
      have idle : system.activity? party = none := congrArg List.head? doing
      simp [proceed, idle] at proceeded
  | cons activity rest =>
      exact ⟨activity, rest, rfl, (proceed_eq_some_iff (congrArg List.head? doing)).mp proceeded⟩

end Proceeding

section Waking

theorem wake_of_tick {deadline : Instant} (waits : reaper.phase = .waiting deadline)
    (ticks : system.tick now id reaper deadline = some stepped) : Wake system now id reaper stepped := by
  unfold tick at ticks
  split at ticks
  · rename_i stopped
    obtain rfl := Option.some.inj ticks
    exact .ends waits (Or.inl stopped)
  · rename_i unstopped
    simp only [Option.ite_none_left_eq_some, Nat.not_lt] at ticks
    rcases ticks with ⟨late, ticks⟩
    split at ticks
    · rename_i owned
      obtain rfl := Option.some.inj ticks
      exact .sweep waits (eq_false_of_ne_true unstopped) late owned
    · rename_i gone
      obtain rfl := Option.some.inj ticks
      exact .ends waits (Or.inr ⟨late, eq_false_of_ne_true gone⟩)

theorem wake_of_reap (reaped : system.reap now id = some stepped) :
    ∃ reaper, system.reapers[id]? = some reaper ∧ Wake system now id reaper stepped := by
  unfold reap at reaped
  cases listed : system.reapers[id]? with
  | none => simp [listed] at reaped
  | some reaper =>
      refine ⟨reaper, rfl, ?_⟩
      simp only [listed] at reaped
      cases phase : reaper.phase with
      | starting =>
          simp only [phase, Option.some.injEq] at reaped
          subst reaped
          exact .start phase
      | waiting deadline =>
          simp only [phase] at reaped
          exact wake_of_tick phase reaped
      | purging =>
          simp only [phase, Option.map_eq_some_iff] at reaped
          rcases reaped with ⟨inner, proceeded, same⟩
          cases replies : inner.reply with
          | none =>
              simp only [replies] at same
              exact same ▸ .purge phase proceeded replies
          | some reply =>
              simp only [replies] at same
              exact same ▸ .rest phase proceeded replies
      | ended => simp [phase] at reaped

theorem Wake.reaps (wake : Wake system now id reaper stepped)
    (listed : system.reapers[id]? = some reaper) : system.reap now id = some stepped := by
  cases wake with
  | start starts => simp [reap, listed, starts]
  | sweep waits unstopped late owned =>
      simp [reap, listed, waits, tick, unstopped, Nat.not_lt.mpr late, owned]
  | ends waits reason =>
      rcases reason with stopped | ⟨late, gone⟩
      · simp [reap, listed, waits, tick, stopped]
      · simp [reap, listed, waits, tick, Nat.not_lt.mpr late, gone]
  | purge purges proceeded silent => simp [reap, listed, purges, proceeded, silent]
  | rest purges proceeded replies => simp [reap, listed, purges, proceeded, replies]

/-- A reaper makes the steps of its phase. -/
theorem reap_eq_some_iff :
    system.reap now id = some stepped ↔
      ∃ reaper, system.reapers[id]? = some reaper ∧ Wake system now id reaper stepped :=
  ⟨wake_of_reap, fun ⟨_, listed, wake⟩ => wake.reaps listed⟩

end Waking

end Coordination.RegistrySystem
