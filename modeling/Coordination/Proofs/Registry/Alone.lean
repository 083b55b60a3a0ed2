import Coordination.Proofs.Registry.Retirement
import Coordination.Registry.Client

/-!
# A thread that has a registry to itself

A thread calls a registry that nobody else uses: it begins an operation and goes on until it has the
reply (`Answers`), and so it goes through a program (`Evaluates`). It has no choices, so there is one
result at most.

Between a call and its reply the thread changes the map and its own activities and nothing else, so
that what it is in the middle of can be told by these two (`busy`).
-/

namespace Coordination

namespace Table

variable {κ α : Type} [DecidableEq κ]

theorem store_store (rows : List (κ × α)) (key : κ) (first second : α) :
    store (store rows key first) key second = store rows key second := by
  induction rows with
  | nil => simp [store]
  | cons row rest ih =>
      rcases row with ⟨name, old⟩
      by_cases same : name = key
      · simp [store, same]
      · simp [store, same, ih]

/-- Of two values that are stored under one key the second one counts. -/
theorem set_set [Inhabited α] (table : Table κ α) (key : κ) (first second : α) :
    (table.set key first).set key second = table.set key second :=
  congrArg Table.mk (store_store table.rows key first second)

end Table

namespace RegistrySystem

variable {κ α β γ : Type}

section Calling

variable [DecidableEq κ]

/-- A thread makes a move, and goes on by itself until it has a reply. -/
inductive Answers (thread : ThreadId) : List (Reference κ) → RegistrySystem κ α → Move κ α → Reply →
    List (Reference κ) → RegistrySystem κ α → Prop where
  | replies {held : List (Reference κ)} {system : RegistrySystem κ α} {now : Instant} {move : Move κ α}
      {stepped : Stepped κ α} {reply : Reply} (performed : system.perform held now move = some stepped)
      (replied : stepped.reply = some reply) :
      Answers thread held system move reply (system.record held stepped.reply move) stepped.state
  | goesOn {held final : List (Reference κ)} {system after : RegistrySystem κ α} {now : Instant}
      {move : Move κ α} {stepped : Stepped κ α} {reply : Reply}
      (performed : system.perform held now move = some stepped) (silent : stepped.reply = none)
      (rest : Answers thread (system.record held stepped.reply move) stepped.state (.proceed thread)
        reply final after) :
      Answers thread held system move reply final after

/-- A thread goes through a program that calls the registry. -/
inductive Evaluates (thread : ThreadId) : List (Reference κ) → RegistrySystem κ α →
    Program (Operation κ α) Reply β → β → List (Reference κ) → RegistrySystem κ α → Prop where
  | finish {held : List (Reference κ)} {system : RegistrySystem κ α} (result : β) :
      Evaluates thread held system (.finish result) result held system
  | ask {held between final : List (Reference κ)} {system middle after : RegistrySystem κ α}
      {operation : Operation κ α} {reply : Reply} {next : Reply → Program (Operation κ α) Reply β}
      {result : β} (answers : Answers thread held system (.begin thread operation) reply between middle)
      (rest : Evaluates thread between middle (next reply) result final after) :
      Evaluates thread held system (.ask operation next) result final after

variable {thread : ThreadId} {held final : List (Reference κ)} {system after : RegistrySystem κ α}
  {move : Move κ α} {reply : Reply}

theorem Answers.reachable (answers : Answers thread held system move reply final after)
    (reached : Reachable held system) : Reachable final after := by
  induction answers with
  | replies performed => exact reached.step performed
  | goesOn performed _ _ ih => exact ih (reached.step performed)

theorem Answers.stack_of_ne (answers : Answers thread held system move reply final after)
    (reached : Reachable held system) (mine : move.party = .caller thread) {other : Party}
    (apart : Party.caller thread ≠ other) : after.stack other = system.stack other := by
  induction answers with
  | replies performed =>
      have leads := perform_leads (invariant_of_reachable reached).reaping performed
      exact leads.stack_of_ne (mine ▸ apart)
  | goesOn performed _ _ ih =>
      have leads := perform_leads (invariant_of_reachable reached).reaping performed
      exact (ih (reached.step performed) rfl).trans (leads.stack_of_ne (mine ▸ apart))

/-- The instant of a step does not matter to a thread. -/
theorem perform_congr (mine : move.party = .caller thread) (now other : Instant) :
    system.perform held now move = system.perform held other move := by
  cases move with
  | begin | proceed => rfl
  | reap => cases mine

theorem Answers.unique (answers : Answers thread held system move reply final after)
    (mine : move.party = .caller thread) {reply' : Reply} {final' : List (Reference κ)}
    {after' : RegistrySystem κ α} (also : Answers thread held system move reply' final' after') :
    reply' = reply ∧ final' = final ∧ after' = after := by
  induction answers with
  | @replies held system now move stepped reply performed replied =>
      cases also with
      | @replies _ _ now' _ stepped' _ performed' replied' =>
          rw [perform_congr mine now' now] at performed'
          obtain rfl := Option.some.inj (performed.symm.trans performed')
          exact ⟨Option.some.inj (replied'.symm.trans replied), rfl, rfl⟩
      | @goesOn _ _ _ _ now' _ stepped' _ performed' silent =>
          rw [perform_congr mine now' now] at performed'
          obtain rfl := Option.some.inj (performed.symm.trans performed')
          cases silent.symm.trans replied
  | @goesOn held final system after now move stepped reply performed silent rest ih =>
      cases also with
      | @replies _ _ now' _ stepped' _ performed' replied' =>
          rw [perform_congr mine now' now] at performed'
          obtain rfl := Option.some.inj (performed.symm.trans performed')
          cases silent.symm.trans replied'
      | @goesOn _ _ _ _ now' _ stepped' _ performed' _ rest' =>
          rw [perform_congr mine now' now] at performed'
          obtain rfl := Option.some.inj (performed.symm.trans performed')
          exact ih rfl rest'

theorem Evaluates.unique {program : Program (Operation κ α) Reply β} {result : β}
    (evaluates : Evaluates thread held system program result final after) {result' : β}
    {final' : List (Reference κ)} {after' : RegistrySystem κ α}
    (also : Evaluates thread held system program result' final' after') :
    result' = result ∧ final' = final ∧ after' = after := by
  induction evaluates with
  | finish =>
      cases also
      exact ⟨rfl, rfl, rfl⟩
  | ask answers rest ih =>
      cases also with
      | ask answers' rest' =>
          rcases answers.unique rfl answers' with ⟨rfl, rfl, rfl⟩
          exact ih rest'

theorem Evaluates.bind {between : List (Reference κ)} {middle : RegistrySystem κ α}
    {program : Program (Operation κ α) Reply β} {next : β → Program (Operation κ α) Reply γ}
    {result : β} {following : γ}
    (first : Evaluates thread held system program result between middle)
    (second : Evaluates thread between middle (next result) following final after) :
    Evaluates thread held system (program.bind next) following final after := by
  induction first with
  | finish => exact second
  | ask answers _ ih => exact .ask answers (ih second)

end Calling

section Busy

variable (system : RegistrySystem κ α) (party : Party) (registry : Registry κ α)

/-- The registry is in some state, and a party is in the middle of something. -/
def busy (stack : List (Activity κ)) : RegistrySystem κ α :=
  { system with registry, activities := system.activities.set party stack }

@[simp]
theorem registry_busy (stack : List (Activity κ)) :
    (system.busy party registry stack).registry = registry := rfl

@[simp]
theorem stack_busy (stack : List (Activity κ)) :
    (system.busy party registry stack).stack party = stack :=
  Table.get_set_same _ _ _

@[simp]
theorem activity?_busy (stack : List (Activity κ)) :
    (system.busy party registry stack).activity? party = stack.head? :=
  congrArg List.head? (system.stack_busy party registry stack)

@[simp]
theorem modify_busy (stack : List (Activity κ)) (change : Registry κ α → Registry κ α) :
    (system.busy party registry stack).modify change = system.busy party (change registry) stack := rfl

theorem modifyStack_busy (stack : List (Activity κ)) (change : List (Activity κ) → List (Activity κ)) :
    { system.busy party registry stack with
        activities := (system.busy party registry stack).activities.modify party change }
      = system.busy party registry (change stack) := by
  simp only [busy, Table.modify, Table.get_set_same, Table.set_set]

@[simp]
theorem turnTo_busy (activity next : Activity κ) (rest : List (Activity κ)) :
    (system.busy party registry (activity :: rest)).turnTo party next
      = system.busy party registry (next :: rest) :=
  modifyStack_busy system party registry _ _

@[simp]
theorem finish_busy (activity : Activity κ) (rest : List (Activity κ)) (reply : Reply)
    (log : List Log.Entry) :
    (system.busy party registry (activity :: rest)).finish party reply log
      = { state := system.busy party registry rest, reply := some reply, log } :=
  congrArg (fun state => ({ state, reply := some reply, log } : Stepped κ α))
    (modifyStack_busy system party registry (activity :: rest) List.tail)

end Busy

section Steps

variable [DecidableEq κ] {system changed after : RegistrySystem κ α} {thread : ThreadId}
  {registry next : Registry κ α} {activity following : Activity κ} {rest : List (Activity κ)}
  {held final : List (Reference κ)} {reply : Reply} {log : List Log.Entry}

/-- The step of a thread that turns to something else and has no reply yet. -/
theorem Answers.go
    (advance : Advance (system.busy (.caller thread) registry (activity :: rest)) (.caller thread)
      activity { state := changed.turnTo (.caller thread) following })
    (same : changed = system.busy (.caller thread) next (activity :: rest))
    (more : Answers thread held (system.busy (.caller thread) next (following :: rest))
      (.proceed thread) reply final after) :
    Answers thread held (system.busy (.caller thread) registry (activity :: rest)) (.proceed thread)
      reply final after := by
  subst same
  have proceeded := advance.proceeds (activity?_busy _ _ _ _)
  rw [turnTo_busy] at proceeded
  have performed : (system.busy (.caller thread) registry (activity :: rest)).perform held 0
      (.proceed thread) = _ := proceeded
  refine .goesOn performed rfl ?_
  have same : record (system.busy (.caller thread) registry (activity :: rest)) held none
      (.proceed thread) = held := List.append_nil held
  rw [same]
  exact more

/-- The step of a thread that has its reply, perhaps with a reference. -/
theorem Answers.done
    (advance : Advance (system.busy (.caller thread) registry (activity :: rest)) (.caller thread)
      activity { state := after, reply := some reply, log })
    {gain : List (Reference κ)}
    (gains : ((system.busy (.caller thread) registry (activity :: rest)).gained (.caller thread)
      (some reply)).toList = gain) :
    Answers thread held (system.busy (.caller thread) registry (activity :: rest)) (.proceed thread)
      reply (held ++ gain) after := by
  subst gains
  have performed : (system.busy (.caller thread) registry (activity :: rest)).perform held 0
      (.proceed thread) = _ := advance.proceeds (activity?_busy _ _ _ _)
  exact .replies performed rfl

/-- The step of a thread that has counted something. -/
theorem Answers.counted {number : Nat}
    (advance : Advance (system.busy (.caller thread) registry (activity :: rest)) (.caller thread)
      activity ((system.busy (.caller thread) registry (activity :: rest)).finish (.caller thread)
        (.count number) log)) :
    Answers thread held (system.busy (.caller thread) registry (activity :: rest)) (.proceed thread)
      (.count number) held (system.busy (.caller thread) registry rest) := by
  rw [finish_busy] at advance
  have done : Answers thread held _ (.proceed thread) (.count number) (held ++ []) _ :=
    .done advance rfl
  rwa [List.append_nil] at done

end Steps

end RegistrySystem

end Coordination
