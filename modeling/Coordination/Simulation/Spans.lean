import Coordination.Span

/-!
# Scripts of spans

A script opens named spans, records on them and drops them. Every step takes a moment, which only the
shortest thresholds do not exceed. The spans that are left at the end are dropped in the order of
their names.
-/

namespace Coordination.Simulation.Spans

open Log

/-- A step of a script. -/
inductive Step where
  | start (name operation : String) (slowThreshold : Option Duration)
  | drop (name : String)
  | result (name : String) (success : Bool)
  | items (name : String) (count : Nat)
  | number (name : String)
  | nothing
  | unknown
deriving DecidableEq, Repr, Inhabited

/-- The answer to a step. -/
inductive Answer where
  | done
  | number (id : Nat)
  | refused
deriving DecidableEq, Repr, Inhabited

def moment : Duration := ⟨1000⟩

/-- The open spans by name, each with the number of spans opened before it. -/
structure State where
  now : Instant := 0
  opened : Nat := 0
  spans : List (String × Nat × Span) := []
deriving Inhabited

/-- Inserts a span at the place of its name, in the order of the names. -/
def insert (name : String) (entry : Nat × Span) :
    List (String × Nat × Span) → List (String × Nat × Span)
  | [] => [(name, entry)]
  | (other, old) :: rest =>
      if name < other then (name, entry) :: (other, old) :: rest
      else (other, old) :: insert name entry rest

/-- The entry of the span of a name that is dropped, if there is one. -/
def closingOf (state : State) (name : String) : List Entry :=
  match state.spans.lookup name with
  | some (_, span) => span.closing state.now
  | none => []

def without (state : State) (name : String) : List (String × Nat × Span) :=
  state.spans.filter (·.1 ≠ name)

def step (state : State) : Step → State × Answer × List Entry
  | .start name operation slowThreshold =>
      let span : Span :=
        { operation, started := state.now,
          slowThreshold := slowThreshold.getD Span.defaultThreshold }
      ({ state with
           opened := state.opened + 1,
           spans := insert name (state.opened, span) (without state name) },
       .number state.opened, span.opening ++ closingOf state name)
  | .drop name => ({ state with spans := without state name }, .done, closingOf state name)
  | .result name success =>
      if (state.spans.lookup name).isSome then (state, .done, Span.result success)
      else (state, .refused, [])
  | .items name count =>
      if (state.spans.lookup name).isSome then (state, .done, Span.items count)
      else (state, .refused, [])
  | .number name =>
      match state.spans.lookup name with
      | some (number, _) => (state, .number number, [])
      | none => (state, .refused, [])
  | .nothing => (state, .done, [])
  | .unknown => (state, .refused, [])

def steps (state : State) : List Step → State × List (Answer × List Entry)
  | [] => (state, [])
  | next :: rest =>
      let (state, answer, log) := step state next
      let state := { state with now := moment.after state.now }
      let (state, rows) := steps state rest
      (state, (answer, log) :: rows)

/-- The answers to a script with their logs, and the log of dropping the spans that are left. -/
def run (script : List Step) : List (Answer × List Entry) × List Entry :=
  let (state, rows) := steps {} script
  (rows, state.spans.flatMap fun (_, _, span) => span.closing state.now)

end Coordination.Simulation.Spans
