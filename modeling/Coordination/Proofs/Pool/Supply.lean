import Coordination.Proofs.Pool.Ledger
import Coordination.Proofs.Pool.Release
import Coordination.Proofs.Pool.Signals
import Mathlib.Data.List.Nodup

/-!
# The supply of exit signals

Exit signals are in the queue, with parked senders, handed to receivers, or in the hands of a thread that
still has to send them or to put them back. A step moves them from one of these places to another, and
what it posts and receives tells how many there are then (`Transition.supply`). A caller loses signals
only if it shuts a run down that counts no workers, or if it is interrupted (`Transition.supply_le`).
-/

namespace Coordination

/-- Whether an envelope is an exit signal. -/
def Envelope.isExit {ι : Type} : Envelope ι → Bool
  | .exit => true
  | .work _ => false

namespace Table

variable {κ α : Type} [DecidableEq κ] [Inhabited α]

/-- The weights of all rows together. -/
def sum (table : Table κ α) (weight : α → Nat) : Nat :=
  table.rows.foldr (fun row total => weight row.2 + total) 0

/-- Every key has one row at most. -/
def Keyed (table : Table κ α) : Prop := (table.rows.map Prod.fst).Nodup

theorem sum_set (table : Table κ α) (key : κ) (value : α) (weight : α → Nat)
    (free : weight default = 0) :
    (table.set key value).sum weight + weight (table.get key) = table.sum weight + weight value := by
  simp only [sum, set, get]
  induction table.rows with
  | nil => simp [store, find, free]
  | cons row rest ih =>
      simp only [store, find]
      split
      · simp only [List.foldr_cons]
        omega
      · simp only [List.foldr_cons]
        omega

omit [DecidableEq κ] [Inhabited α] in
theorem sum_eq_zero {table : Table κ α} {weight : α → Nat}
    (light : ∀ row ∈ table.rows, weight row.2 = 0) : table.sum weight = 0 := by
  rcases table with ⟨rows⟩
  simp only [sum] at light ⊢
  induction rows with
  | nil => rfl
  | cons row rest ih =>
      rw [List.foldr_cons, light row List.mem_cons_self, Nat.zero_add]
      exact ih fun row mem => light row (List.mem_cons_of_mem _ mem)

omit [Inhabited α] in
theorem mem_keys_store {rows : List (κ × α)} {stored key : κ} {value : α}
    (mem : key ∈ (store rows stored value).map Prod.fst) : key = stored ∨ key ∈ rows.map Prod.fst := by
  induction rows with
  | nil => simpa [store] using mem
  | cons row rest ih =>
      simp only [store] at mem
      split at mem
      · rename_i same
        simpa [same] using mem
      · simp only [List.map_cons, List.mem_cons] at mem ⊢
        rcases mem with first | later
        · exact Or.inr (Or.inl first)
        · exact (ih later).imp_right Or.inr

omit [Inhabited α] in
theorem Keyed.set {table : Table κ α} (keyed : table.Keyed) (key : κ) (value : α) :
    (table.set key value).Keyed := by
  rcases table with ⟨rows⟩
  simp only [Keyed, Table.set] at keyed ⊢
  induction rows with
  | nil => simp [store]
  | cons row rest ih =>
      rw [List.map_cons, List.nodup_cons] at keyed
      simp only [store]
      split
      · rename_i same
        rw [List.map_cons, List.nodup_cons]
        exact ⟨same ▸ keyed.1, keyed.2⟩
      · rename_i apart
        rw [List.map_cons, List.nodup_cons]
        refine ⟨?_, ih keyed.2⟩
        intro mem
        rcases mem_keys_store mem with same | later
        · exact apart same
        · exact keyed.1 later

theorem Keyed.get_of_mem {table : Table κ α} (keyed : table.Keyed) {row : κ × α}
    (mem : row ∈ table.rows) : table.get row.1 = row.2 := by
  rcases table with ⟨rows⟩
  simp only [Keyed, get] at keyed mem ⊢
  induction rows with
  | nil => cases mem
  | cons first rest ih =>
      rw [List.map_cons, List.nodup_cons] at keyed
      simp only [find]
      rcases List.mem_cons.mp mem with rfl | later
      · rw [if_pos rfl]
      · rw [if_neg]
        · exact ih keyed.2 later
        · intro same
          exact keyed.1 (same ▸ List.mem_map_of_mem later)

end Table

namespace PoolSystem

variable {ι σ : Type}

/-- How many exit signals a thread has in its hands. -/
def Activity.signals : Activity ι → Nat
  | .clearing _ signals | .restoring _ signals => signals
  | .signalling _ left | .offering _ left _ => left
  | _ => 0

/-- All exit signals, also those handed to workers. -/
def supply (pool : PoolSystem ι σ) : Nat :=
  pool.channel.stock Envelope.isExit + pool.activities.sum Activity.signals

variable {pool after : PoolSystem ι σ} {now : Instant} {move : Move ι σ}
  {use : Channel.Use (Envelope ι)} {reply : Option (Reply ι)}

variable [Inhabited σ]

/-- A thread turns to something else, and a worker leaves the threads alone. -/
theorem Transition.activities (step : Transition pool now move use after reply) :
    after.activities = pool.activities ∨ ∃ thread activity, move.party = .caller thread ∧
      after.activities = pool.activities.set thread activity := by
  cases step with
  | ignore | look | take | parkWorker | quit | pickUp | despair | timeOut | countOut | notify | finish
  | answer => exact Or.inl rfl
  | @advance thread _ next _ doing advance =>
      refine Or.inr ⟨thread, next, rfl, ?_⟩
      rw [turnTo, advance.activities]
  | _ => exact Or.inr ⟨_, _, rfl, rfl⟩

theorem keyed_of_history {events : List (Event ι σ)} (history : History events pool) :
    pool.activities.Keyed := by
  refine history.induction (motive := fun _ pool => pool.activities.Keyed) ?_ ?_
  · intro capacity
    exact List.nodup_nil
  · intro events pool now move stepped history keyed performed
    rcases (perform_transition performed).activities with same | ⟨thread, activity, _, set⟩
    · rw [same]
      exact keyed
    · rw [set]
      exact keyed.set _ _

theorem Transition.stock (step : Transition pool now move use after reply) (kind : Envelope ι → Bool) :
    pool.channel.stock kind + (pool.channel.posts use).countP (kind ·.2)
      = (pool.channel.receipts use).countP (kind ·.2)
        + (pool.channel.withdrawals use).countP (kind ·.2) + after.channel.stock kind := by
  rw [step.channel]
  exact Channel.stock_after use kind

/-- What a step does with the exit signals. -/
theorem Transition.supply (step : Transition pool now move use after reply) {thread : ThreadId}
    (own : move.party = .caller thread) :
    pool.supply + (pool.channel.posts use).countP (·.2.isExit) + (after.activity thread).signals
      = (pool.channel.receipts use).countP (·.2.isExit)
        + (pool.channel.withdrawals use).countP (·.2.isExit)
        + after.supply + (pool.activity thread).signals := by
  have stock := step.stock Envelope.isExit
  rcases step.activities with same | ⟨other, activity, mine, set⟩
  · have still : after.activity thread = pool.activity thread := activity_congr same thread
    rw [PoolSystem.supply, PoolSystem.supply, same, still]
    omega
  · cases own.symm.trans mine
    have turns : after.activity thread = activity := by
      rw [PoolSystem.activity, set, Table.get_set_same]
    have turned : after.activities.sum Activity.signals + (pool.activity thread).signals
        = pool.activities.sum Activity.signals + activity.signals := by
      rw [set]
      exact Table.sum_set pool.activities thread activity Activity.signals rfl
    rw [PoolSystem.supply, PoolSystem.supply, turns]
    omega

theorem Transition.supply_agent (step : Transition pool now move use after reply) {id : Nat}
    (own : move.party = .agent id) :
    pool.supply + (pool.channel.posts use).countP (·.2.isExit)
      = (pool.channel.receipts use).countP (·.2.isExit)
        + (pool.channel.withdrawals use).countP (·.2.isExit) + after.supply := by
  have stock := step.stock Envelope.isExit
  rcases step.activities with same | ⟨other, activity, mine, _⟩
  · rw [PoolSystem.supply, PoolSystem.supply, same]
    omega
  · cases own.symm.trans mine

omit [Inhabited σ] in
theorem Advance.signals {before next : Activity ι} {advanced : PoolSystem ι σ}
    (advance : Advance pool now before advanced next) : before.signals = 0 ∧ next.signals = 0 := by
  cases advance with
  | force | forgo => split <;> exact ⟨rfl, rfl⟩
  | _ => exact ⟨rfl, rfl⟩

omit [Inhabited σ] in
/-- Who has drained a queue keeps the exit signals. -/
theorem length_of_items (envelopes : List (Envelope ι)) :
    envelopes.countP Envelope.isExit + (envelopes.filterMap Envelope.item?).length
      = envelopes.length := by
  induction envelopes with
  | nil => rfl
  | cons envelope rest ih =>
      cases envelope with
      | work item =>
          simp only [List.countP_cons, Envelope.isExit, Bool.false_eq_true, if_false,
            List.filterMap_cons, Envelope.item?, List.length_cons]
          omega
      | exit =>
          simp only [List.countP_cons, Envelope.isExit, if_true, List.filterMap_cons, Envelope.item?,
            List.length_cons]
          omega

omit [Inhabited σ] in
/-- A parked sender takes back one signal at most. -/
theorem withdrawals_le (sending : Sending pool) (party : Party) :
    (pool.channel.withdrawals (.withdraw party)).countP (·.2.isExit) ≤ 1 := by
  refine Nat.le_trans List.countP_le_length ?_
  rw [Channel.withdrawals, ← List.countP_eq_length_filter]
  have once := List.nodup_iff_count.mp sending.single party
  rw [List.count_eq_countP, List.countP_map] at once
  refine Nat.le_trans (Nat.le_of_eq (List.countP_congr fun row _ => ?_)) once
  simp

/-- A step of a caller loses no signal, except for a shutdown that finds its run deserted or is
interrupted. -/
theorem Transition.supply_le (step : Transition pool now move use after reply) (sending : Sending pool)
    {thread : ThreadId} (own : move.party = .caller thread) (shut : pool.lifecycle = .shuttingDown)
    (undrained : (pool.activity thread).drains = false) : pool.supply ≤ after.supply ∨
      (∃ shutdown ∈ (pool.activity thread).shutdown?, (pool.run shutdown.run).running = 0) ∨
      ∃ shutdown ∈ (after.activity thread).shutdown?, shutdown.interrupted = true := by
  have balance := step.supply own
  cases step with
  | launch _ _ rest | fallShort _ _ rest | abandon _ rest | waitIdle _ _ rest =>
      cases shut.symm.trans rest
  | takeOver _ _ runs | abandonRunning _ _ runs => cases shut.symm.trans runs
  | drain doing =>
      cases own
      rw [doing] at undrained
      cases undrained
  | desert doing elapsed quiet deserted =>
      cases own
      exact Or.inr (Or.inl ⟨_, by rw [doing]; rfl, deserted⟩)
  | @breakOff _ shutdown =>
      cases own
      refine Or.inr (Or.inr ⟨{ shutdown with interrupted := true }, ?_, rfl⟩)
      rw [activity_turnTo, if_pos rfl]
      rfl
  | @clear _ items signals idle taken held =>
      cases own
      refine Or.inl ?_
      have count := length_of_items pool.channel.drain.2
      have received : (pool.channel.receipts (.drain (.caller thread))).countP (·.2.isExit)
          = pool.channel.drain.2.countP Envelope.isExit := List.countP_map
      simp only [idle, activity_turnTo, if_true, Activity.signals, received, Channel.posts,
        Channel.withdrawals, List.countP_nil] at balance
      rw [held, taken] at balance ⊢
      omega
  | withdraw doing =>
      cases own
      refine Or.inl ?_
      have most := withdrawals_le sending (.caller thread)
      simp only [doing, activity_turnTo, if_true, Activity.signals, Channel.posts, Channel.receipts,
        List.countP_nil] at balance
      omega
  | advance doing advance =>
      cases own
      refine Or.inl ?_
      have none := advance.signals
      simp only [doing, activity_turnTo, if_true, none, Channel.posts, Channel.receipts,
        Channel.withdrawals, List.countP_nil] at balance
      omega
  | offer idle =>
      cases own
      refine Or.inl ?_
      simp only [idle, activity_turnTo, if_true, Activity.signals, Channel.posts, Channel.receipts,
        Channel.withdrawals, List.countP_nil] at balance
      split at balance <;> omega
  | abandonIdle idle =>
      cases own
      refine Or.inl ?_
      simp only [idle, activity_turnTo, if_true, Activity.signals, Channel.posts, Channel.receipts,
        Channel.withdrawals, List.countP_nil] at balance ⊢
      omega
  | look | take | parkWorker | quit | pickUp | despair | timeOut | countOut | notify | finish
  | answer => cases own
  | ignore => exact Or.inl (Nat.le_refl _)
  | refuse doing | add doing | park doing | waitBeside doing | interrupt doing
  | inspect doing | own doing | disown doing | added doing | cleared doing
  | putBack doing | parkBack doing | restored doing | signal doing | parkSignal doing | sent doing
  | reset doing | unwound doing | joined doing | callOff doing | gathered doing =>
      cases own
      refine Or.inl ?_
      simp only [doing, activity_turnTo, if_true, Activity.signals, Channel.posts, Channel.receipts,
        Channel.withdrawals, List.countP_nil, List.countP_singleton, Envelope.isExit] at balance
      omega

end PoolSystem

end Coordination
