import Coordination.Proofs.Lock.Upgrading

/-!
# Stretches of a run

A stretch of a run is a list of moments, each with the states before and after it. A stretch can be cut
anywhere, and from a reachable state it leads through reachable states only. An operation that takes
more than one step covers a part of a stretch, from the step in which it begins to the one that replies.
-/

namespace Coordination.LockSystem

/-- A step that was made. -/
structure Moment where
  before : LockSystem
  now : Instant
  move : Move
  after : LockSystem
  reply : Option Reply

/-- The moments in which schedules lead from one state to another, in order. -/
inductive Stretch : LockSystem → List Moment → LockSystem → Prop where
  | rest (system : LockSystem) : Stretch system [] system
  | step {system final : LockSystem} {now : Instant} {move : Move} {stepped : Stepped}
      {moments : List Moment} (performed : system.perform now move = some stepped)
      (later : Stretch stepped.state moments final) :
      Stretch system (⟨system, now, move, stepped.state, stepped.reply⟩ :: moments) final

/-- An operation in a list of moments, from the step in which it begins to its reply. -/
structure Spans (moments : List Moment) (thread : ThreadId) (operation : Operation) (first : Moment)
    (during : List Moment) (last : Moment) (reply : Reply) : Prop where
  cut : ∃ earlier later, moments = earlier ++ first :: during ++ last :: later
  begins : first.move = .begin thread operation
  pending : ∀ moment ∈ during, moment.move.thread = thread → moment.reply = none
  own : last.move.thread = thread
  replies : last.reply = some reply

/-- The moments of a list of moves. A move that cannot be made is left out. -/
def trace (system : LockSystem) : List (Instant × Move) → List Moment
  | [] => []
  | (now, move) :: rest =>
      match system.perform now move with
      | some stepped => ⟨system, now, move, stepped.state, stepped.reply⟩ :: trace stepped.state rest
      | none => trace system rest

variable {system final : LockSystem} {moments : List Moment}

theorem Stretch.cut {first second : List Moment} (stretch : Stretch system (first ++ second) final) :
    ∃ middle, Stretch system first middle ∧ Stretch middle second final := by
  induction first generalizing system with
  | nil => exact ⟨system, .rest system, stretch⟩
  | cons moment rest ih =>
      cases stretch with
      | step performed later =>
          rcases ih later with ⟨middle, before, after⟩
          exact ⟨middle, .step performed before, after⟩

theorem Stretch.reachable (stretch : Stretch system moments final) (reachable : system.Reachable) :
    final.Reachable := by
  induction stretch with
  | rest system => exact reachable
  | step performed later ih => exact ih (reachable.step performed)

theorem stretch_follow (system : LockSystem) (moves : List (Instant × Move)) :
    Stretch system (system.trace moves) (system.follow moves) := by
  induction moves generalizing system with
  | nil => exact .rest system
  | cons move rest ih =>
      simp only [trace, follow]
      cases performed : system.perform move.1 move.2 with
      | some stepped => exact .step performed (ih stepped.state)
      | none => exact ih system

/-- The stretch that follows a moment of another one. -/
theorem Stretch.after_moment {earlier during later : List Moment} {first last : Moment}
    (stretch : Stretch system (earlier ++ first :: during ++ last :: later) final)
    (reachable : system.Reachable) :
    first.before.Reachable ∧ ∃ stepped, first.before.perform first.now first.move = some stepped ∧
      first.after = stepped.state ∧ first.reply = stepped.reply ∧
        Stretch stepped.state (during ++ last :: later) final := by
  rw [List.append_assoc] at stretch
  rcases stretch.cut with ⟨middle, before, after⟩
  cases after with
  | @step _ _ now move stepped _ performed following =>
      exact ⟨before.reachable reachable, stepped, performed, rfl, rfl, following⟩

/-- What the steps from reachable states do is true of every moment. -/
theorem Stretch.each {holds : Moment → Prop} (stretch : Stretch system moments final)
    (reachable : system.Reachable)
    (each : ∀ {system : LockSystem} {now : Instant} {move : Move} {stepped : Stepped},
      system.Reachable → system.perform now move = some stepped →
        holds ⟨system, now, move, stepped.state, stepped.reply⟩) : ∀ moment ∈ moments, holds moment := by
  induction stretch with
  | rest system => rintro moment ⟨⟩
  | step performed later ih =>
      intro moment mem
      rcases List.mem_cons.mp mem with rfl | other
      · exact each reachable performed
      · exact ih (reachable.step performed) moment other

end Coordination.LockSystem
