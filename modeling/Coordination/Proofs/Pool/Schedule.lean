import Coordination.Pool.System
import Coordination.Proofs.Pool.Traffic

/-!
# Schedules of a pool

A schedule lets the callers and the workers of a pool take their steps in any order and at any
instants. A callback of a worker may end in any way and leave any memory. Every step is remembered as
an event with the states before and after it, so that whatever is said about the past of a pool can be
read off its events.
-/

namespace Coordination

namespace Worker

/-- Whether a worker runs a callback. -/
def Phase.calls {ι : Type} : Phase ι → Bool
  | .initializing | .processing _ | .failing _ _ | .cleaning => true
  | _ => false

end Worker

namespace PoolSystem

variable {ι σ : Type}

/-- A pool in which nothing has happened yet. -/
def new (capacity : Option Nat) : PoolSystem ι σ := { channel := { capacity } }

/-- What a thread is in the middle of. -/
def activity (pool : PoolSystem ι σ) (thread : ThreadId) : Activity ι := pool.activities.get thread

/-- Where a worker is. -/
def phase? (pool : PoolSystem ι σ) (id : Nat) : Option (Worker.Phase ι) :=
  pool.workers[id]?.map (·.phase)

/-- A choice of a schedule. -/
inductive Move (ι σ : Type) where
  | begin (thread : ThreadId) (operation : Operation ι σ)
  | proceed (thread : ThreadId)
  | work (id : Nat)
  /-- The callback that a worker runs ends. -/
  | answer (id : Nat) (memory : σ) (ending : CallbackEnding)

/-- Whether a thread needs the pool for an operation. An interrupt has a handle of its own. -/
def Operation.needsPool : Operation ι σ → Bool
  | .interrupt => false
  | _ => true

/-- Whether a thread is in the middle of nothing. -/
def Activity.isIdle : Activity ι → Bool
  | .idle => true
  | _ => false

/-- The step of a move, if it can be made now. Only an idle thread begins an operation, as long as
the pool has an owner and is not locked, and only a callback that runs can end. -/
def perform [Inhabited σ] (pool : PoolSystem ι σ) (now : Instant) :
    Move ι σ → Option (Stepped ι σ)
  | .begin thread operation =>
      if (pool.activity thread).isIdle ∧ (operation.needsPool → 0 < pool.owners) ∧
          pool.admits operation then
        some (pool.begin now (.caller thread) operation)
      else none
  | .proceed thread => pool.step now (.caller thread)
  | .work id => pool.step now (.agent id)
  | .answer id memory ending =>
      if (pool.phase? id).any (·.calls) then
        some (pool.begin now (.agent id) (.returned memory ending))
      else none

/-- What an operation does with the queue when it begins. -/
def useOfBegin (pool : PoolSystem ι σ) (thread : ThreadId) :
    Operation ι σ → Channel.Use (Envelope ι)
  | .add item => .send (.caller thread) (.work item)
  | .offer item => .offer (.caller thread) (.work item)
  | .clear => .drain (.caller thread)
  | .inspect => .look
  | .disown =>
      if 1 < pool.owners then .nothing
      else
        match pool.lifecycle with
        | .running _ => .nothing
        | _ => .close
  | _ => .nothing

/-- What a thread in the middle of an operation does with the queue. -/
def useOfProceed (pool : PoolSystem ι σ) (now : Instant) (thread : ThreadId) :
    Channel.Use (Envelope ι) :=
  match pool.activity thread with
  | .clearing _ (_ + 1) | .signalling _ (_ + 1) => .send (.caller thread) .exit
  | .offering _ _ deadline =>
      if pool.channel.isSending (.caller thread) ∧ deadline ≤ now then .withdraw (.caller thread)
      else .nothing
  | .draining _ _ => .drain (.caller thread)
  | .joining _ => .close
  | _ => .nothing

/-- What a worker does with the queue. -/
def useOfWork (pool : PoolSystem ι σ) (id : Nat) : Channel.Use (Envelope ι) :=
  match pool.workers[id]? with
  | some worker =>
      match worker.phase with
      | .taking =>
          if worker.mode = .blocking ∧ pool.channel.closed = false then .take (.agent id)
          else .seek (.agent id)
      | .parked _ =>
          if (pool.channel.handed? (.agent id)).isSome then .pickUp (.agent id)
          else .leave (.agent id)
      | _ => .nothing
  | none => .nothing

/-- What a move does with the queue. -/
def use (pool : PoolSystem ι σ) (now : Instant) : Move ι σ → Channel.Use (Envelope ι)
  | .begin thread operation => pool.useOfBegin thread operation
  | .proceed thread => pool.useOfProceed now thread
  | .work id => pool.useOfWork id
  | .answer _ _ _ => .nothing

/-- A step that was made. -/
structure Event (ι σ : Type) where
  before : PoolSystem ι σ
  now : Instant
  move : Move ι σ
  after : PoolSystem ι σ
  reply : Option (Reply ι)

/-- What a step does with the queue. -/
def Event.use (event : Event ι σ) : Channel.Use (Envelope ι) := event.before.use event.now event.move

/-- The envelopes that get into the queue, or past it to a parked worker, with their senders. -/
def Event.arrived (event : Event ι σ) : List (Party × Envelope ι) :=
  event.before.channel.arrivals event.use

/-- The envelopes that leave the queue, with those who get them. -/
def Event.departed (event : Event ι σ) : List (Party × Envelope ι) :=
  event.before.channel.departures event.use

variable [Inhabited σ]

/-- The steps from one state of a pool to another, with their events in order. -/
inductive Path (start : PoolSystem ι σ) : List (Event ι σ) → PoolSystem ι σ → Prop where
  | refl : Path start [] start
  | step {events : List (Event ι σ)} {pool : PoolSystem ι σ} {now : Instant} {move : Move ι σ}
      {stepped : Stepped ι σ} (path : Path start events pool)
      (performed : pool.perform now move = some stepped) :
      Path start (events ++ [⟨pool, now, move, stepped.state, stepped.reply⟩]) stepped.state

/-- The pasts of a pool since it was new, with their events in order. -/
def History (events : List (Event ι σ)) (pool : PoolSystem ι σ) : Prop :=
  ∃ capacity, Path (new capacity) events pool

theorem Path.append {start middle final : PoolSystem ι σ} {earlier later : List (Event ι σ)}
    (path : Path start earlier middle) (more : Path middle later final) :
    Path start (earlier ++ later) final := by
  induction more with
  | refl => simpa using path
  | step _ performed ih =>
      rw [← List.append_assoc]
      exact ih.step performed

theorem History.append {earlier later : List (Event ι σ)} {pool final : PoolSystem ι σ}
    (history : History earlier pool) (path : Path pool later final) : History (earlier ++ later) final := by
  rcases history with ⟨capacity, start⟩
  exact ⟨capacity, start.append path⟩

/-- A path of two pieces. -/
theorem Path.split {start final : PoolSystem ι σ} {earlier later : List (Event ι σ)}
    (path : Path start (earlier ++ later) final) :
    ∃ middle, Path start earlier middle ∧ Path middle later final := by
  generalize whole : earlier ++ later = events at path
  induction path generalizing later with
  | refl =>
      rcases List.append_eq_nil_iff.mp whole with ⟨rfl, rfl⟩
      exact ⟨start, .refl, .refl⟩
  | step path performed ih =>
      rcases List.eq_nil_or_concat later with rfl | ⟨before, last, rfl⟩
      · rw [List.append_nil] at whole
        subst whole
        exact ⟨_, path.step performed, .refl⟩
      · simp only [List.concat_eq_append, ← List.append_assoc] at whole ⊢
        rcases List.append_inj' whole rfl with ⟨same, new⟩
        cases new
        rcases ih same with ⟨middle, first, second⟩
        exact ⟨middle, first, second.step performed⟩

theorem Path.eq_of_nil {start final : PoolSystem ι σ} (path : Path start [] final) : final = start := by
  generalize none : [] = events at path
  cases path with
  | refl => rfl
  | step => simp at none

/-- A path begins with its first event. -/
theorem Path.head {start final : PoolSystem ι σ} {event : Event ι σ} {later : List (Event ι σ)}
    (path : Path start (event :: later) final) :
    (∃ stepped, start.perform event.now event.move = some stepped ∧
      event = ⟨start, event.now, event.move, stepped.state, stepped.reply⟩) ∧
      Path event.after later final := by
  rcases Path.split (show Path start ([event] ++ later) final from path) with ⟨middle, first, rest⟩
  generalize whole : [event] = events at first
  cases first with
  | refl => cases whole
  | step before performed =>
      rcases List.append_inj' (show [] ++ [event] = _ from whole) rfl with ⟨rfl, same⟩
      cases same
      cases before.eq_of_nil
      exact ⟨⟨_, performed, rfl⟩, rest⟩

/-- What holds of a new pool and is kept by every step holds after every past. -/
theorem History.induction {motive : List (Event ι σ) → PoolSystem ι σ → Prop}
    {events : List (Event ι σ)} {pool : PoolSystem ι σ} (history : History events pool)
    (start : ∀ capacity, motive [] (new capacity))
    (kept : ∀ {events pool now move stepped}, History events pool → motive events pool →
      pool.perform now move = some stepped →
      motive (events ++ [⟨pool, now, move, stepped.state, stepped.reply⟩]) stepped.state) :
    motive events pool := by
  rcases history with ⟨capacity, path⟩
  induction path with
  | refl => exact start capacity
  | step path performed ih => exact kept ⟨capacity, path⟩ ih performed

/-- The events of a list of moves. A move that cannot be made is left out. -/
def trace (pool : PoolSystem ι σ) : List (Instant × Move ι σ) → List (Event ι σ)
  | [] => []
  | (now, move) :: rest =>
      match pool.perform now move with
      | some stepped =>
          ⟨pool, now, move, stepped.state, stepped.reply⟩ :: trace stepped.state rest
      | none => trace pool rest

/-- The state to which a list of moves leads. -/
def follow (pool : PoolSystem ι σ) : List (Instant × Move ι σ) → PoolSystem ι σ
  | [] => pool
  | (now, move) :: rest =>
      match pool.perform now move with
      | some stepped => follow stepped.state rest
      | none => follow pool rest

theorem Path.follow {start pool : PoolSystem ι σ} {events : List (Event ι σ)}
    (path : Path start events pool) (moves : List (Instant × Move ι σ)) :
    Path start (events ++ pool.trace moves) (pool.follow moves) := by
  induction moves generalizing events pool with
  | nil => simpa [trace, PoolSystem.follow] using path
  | cons move rest ih =>
      simp only [trace, PoolSystem.follow]
      cases performed : pool.perform move.1 move.2 with
      | some stepped => simpa using ih (path.step performed)
      | none => exact ih path

theorem history_follow (capacity : Option Nat) (moves : List (Instant × Move ι σ)) :
    History ((new capacity : PoolSystem ι σ).trace moves) ((new capacity).follow moves) :=
  ⟨capacity, by simpa using Path.refl.follow moves⟩

end PoolSystem

end Coordination
