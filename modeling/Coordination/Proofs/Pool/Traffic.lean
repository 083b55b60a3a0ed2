import Coordination.Pool.Channel
import Mathlib.Tactic.ByContra

/-!
# The traffic of a channel

A party uses a channel in one of a few ways, each in one critical section. A use lets some messages
arrive (`arrivals`) and some depart (`departures`). A message arrives when it goes into the queue or
directly to a receiver, not when its sender parks with it, and it departs when a receiver gets it or
when it is drained. A message that is handed to a parked receiver does both at once.

The channel is a queue in the strict sense: what was there, followed by what arrives, is what
departs, followed by what is there then (`queue_after`). This needs that nobody is parked as a
receiver while there is a message to take (`Eager`), which every use keeps.
-/

namespace Coordination.Channel

variable {α : Type}

/-- What a party does with a channel. -/
inductive Use (α : Type) where
  | nothing
  /-- Sends a message, or parks with it. -/
  | send (party : Party) (message : α)
  /-- Sends a message if that is possible without waiting. -/
  | offer (party : Party) (message : α)
  /-- Gives up as a parked sender. -/
  | withdraw (party : Party)
  /-- Takes a message, or parks as a receiver. -/
  | take (party : Party)
  /-- Takes a message if there is one. -/
  | seek (party : Party)
  | drain (party : Party)
  | look
  | pickUp (party : Party)
  /-- Gives up as a parked receiver. -/
  | leave (party : Party)
  | close
deriving DecidableEq, Repr

/-- The channel after it was used. -/
def after (channel : Channel α) : Use α → Channel α
  | .nothing => channel
  | .send party message => (channel.offer? message).getD (channel.parkSender party message)
  | .offer _ message => (channel.offer? message).getD channel
  | .withdraw party => channel.withdrawSender party
  | .take party =>
      match channel.take with
      | (taken, some _) => taken
      | (taken, none) => taken.parkReceiver party
  | .seek _ => channel.take.1
  | .drain _ => channel.drain.1
  | .look => channel.size.1
  | .pickUp party => channel.pickUp party
  | .leave party => channel.withdrawReceiver party
  | .close => { channel with closed := true }

/-- Whether a message can be sent without waiting. -/
def accepts (channel : Channel α) : Bool := !channel.receivers.isEmpty || channel.hasRoom

/-- The messages of parked senders that get in when somebody looks at the channel. -/
def admission (channel : Channel α) (spare : Nat) : List (Party × α) :=
  channel.senders.take (channel.admitted spare)

/-- The messages that a use lets in, with their senders. -/
def arrivals (channel : Channel α) : Use α → List (Party × α)
  | .send party message | .offer party message =>
      if channel.accepts then [(party, message)] else []
  | .take _ | .seek _ => channel.admission 1
  | .drain _ | .look => channel.admission 0
  | _ => []

/-- The messages that a use lets out, with those who get them. -/
def departures (channel : Channel α) : Use α → List (Party × α)
  | .send _ message | .offer _ message => (channel.receivers.head?.map (·, message)).toList
  | .take party | .seek party => (channel.take.2.map (party, ·)).toList
  | .drain party => channel.drain.2.map (party, ·)
  | _ => []

/-- Nobody is parked as a receiver while there is a message to take. -/
def Eager (channel : Channel α) : Prop := channel.receivers ≠ [] → channel.waiting = []

variable {channel : Channel α}

section Offering

theorem offer?_of_receivers {receiver : Party} {rest : List Party}
    (parked : channel.receivers = receiver :: rest) (message : α) :
    channel.offer? message
      = some { channel with
          receivers := rest, handed := channel.handed ++ [(receiver, message)] } := by
  simp [offer?, parked]

theorem offer?_of_no_receivers (alone : channel.receivers = []) (message : α) :
    channel.offer? message
      = if channel.hasRoom then some { channel with queue := channel.queue.push message }
        else none := by
  simp [offer?, alone]

theorem isSome_offer? (channel : Channel α) (message : α) :
    (channel.offer? message).isSome = channel.accepts := by
  cases parked : channel.receivers with
  | cons receiver rest => simp [offer?, accepts, parked]
  | nil => cases room : channel.hasRoom <;> simp [offer?, accepts, parked, room]

theorem offer?_eq_none_iff {message : α} :
    channel.offer? message = none ↔ channel.accepts = false := by
  rw [← isSome_offer? channel message, Option.isSome_eq_false_iff, Option.isNone_iff_eq_none]

theorem senders_of_offer? {offered : Channel α} {message : α}
    (sent : channel.offer? message = some offered) : offered.senders = channel.senders := by
  cases parked : channel.receivers with
  | cons receiver rest =>
      rw [offer?_of_receivers parked] at sent
      obtain rfl := Option.some.inj sent
      rfl
  | nil =>
      rw [offer?_of_no_receivers parked] at sent
      split at sent
      · obtain rfl := Option.some.inj sent
        rfl
      · cases sent

theorem receivers_of_offer? {offered : Channel α} {message : α}
    (sent : channel.offer? message = some offered) :
    offered.receivers = channel.receivers.tail := by
  cases parked : channel.receivers with
  | cons receiver rest =>
      rw [offer?_of_receivers parked] at sent
      obtain rfl := Option.some.inj sent
      rfl
  | nil =>
      rw [offer?_of_no_receivers parked] at sent
      split at sent
      · obtain rfl := Option.some.inj sent
        exact parked
      · cases sent

theorem handed_of_offer? {offered : Channel α} {message : α}
    (sent : channel.offer? message = some offered) :
    offered.handed = channel.handed ++ (channel.receivers.head?.map (·, message)).toList := by
  cases parked : channel.receivers with
  | cons receiver rest =>
      rw [offer?_of_receivers parked] at sent
      obtain rfl := Option.some.inj sent
      rfl
  | nil =>
      rw [offer?_of_no_receivers parked] at sent
      split at sent
      · obtain rfl := Option.some.inj sent
        simp
      · cases sent

theorem closed_of_offer? {offered : Channel α} {message : α}
    (sent : channel.offer? message = some offered) : offered.closed = channel.closed := by
  cases parked : channel.receivers with
  | cons receiver rest =>
      rw [offer?_of_receivers parked] at sent
      obtain rfl := Option.some.inj sent
      rfl
  | nil =>
      rw [offer?_of_no_receivers parked] at sent
      split at sent
      · obtain rfl := Option.some.inj sent
        rfl
      · cases sent

/-- A message that is sent goes to the end of the queue, or past an empty queue to a receiver. -/
theorem queue_of_offer? {offered : Channel α} {message : α} (eager : channel.Eager)
    (sent : channel.offer? message = some offered) :
    channel.queue.toList ++ [message]
      = ((channel.receivers.head?.map fun receiver : Party => (receiver, message)).toList).map (·.2)
        ++ offered.queue.toList := by
  cases parked : channel.receivers with
  | cons receiver rest =>
      rw [offer?_of_receivers parked] at sent
      obtain rfl := Option.some.inj sent
      have idle := eager (by simp [parked])
      simp only [waiting, List.append_eq_nil_iff] at idle
      simp [idle.1]
  | nil =>
      rw [offer?_of_no_receivers parked] at sent
      split at sent
      · obtain rfl := Option.some.inj sent
        simp
      · cases sent

end Offering

section Taking

@[simp]
theorem receivers_pull (channel : Channel α) (spare : Nat) :
    (channel.pull spare).receivers = channel.receivers := rfl

@[simp]
theorem handed_pull (channel : Channel α) (spare : Nat) :
    (channel.pull spare).handed = channel.handed := rfl

theorem queue_pull (channel : Channel α) (spare : Nat) :
    (channel.pull spare).queue.toList
      = channel.queue.toList ++ (channel.admission spare).map (·.2) := by
  simp [pull, admission]

theorem senders_pull (channel : Channel α) (spare : Nat) :
    (channel.pull spare).senders = channel.senders.drop (channel.admitted spare) := rfl

theorem take_eq (channel : Channel α) :
    (∃ message rest, (channel.pull 1).queue.pop? = some (message, rest) ∧
      channel.take = ({ channel.pull 1 with queue := rest }, some message)) ∨
    (channel.pull 1).queue.pop? = none ∧ channel.take = (channel.pull 1, none) := by
  cases popped : (channel.pull 1).queue.pop? with
  | some entry => exact Or.inl ⟨entry.1, entry.2, rfl, by simp [take, popped]⟩
  | none => exact Or.inr ⟨rfl, by simp [take, popped]⟩

theorem queue_take (channel : Channel α) :
    channel.queue.toList ++ (channel.admission 1).map (·.2)
      = channel.take.2.toList ++ channel.take.1.queue.toList := by
  rw [← queue_pull]
  rcases channel.take_eq with ⟨message, rest, popped, taken⟩ | ⟨unpopped, taken⟩
  · rw [taken, Fifo.toList_of_pop?_some popped]
    rfl
  · rw [taken]
    rfl

theorem senders_take (channel : Channel α) :
    channel.take.1.senders = channel.senders.drop (channel.admitted 1) := by
  rcases channel.take_eq with ⟨_, _, _, taken⟩ | ⟨_, taken⟩ <;> rw [taken] <;> rfl

theorem receivers_take (channel : Channel α) : channel.take.1.receivers = channel.receivers := by
  rcases channel.take_eq with ⟨_, _, _, taken⟩ | ⟨_, taken⟩ <;> rw [taken] <;> rfl

theorem handed_take (channel : Channel α) : channel.take.1.handed = channel.handed := by
  rcases channel.take_eq with ⟨_, _, _, taken⟩ | ⟨_, taken⟩ <;> rw [taken] <;> rfl

theorem closed_take (channel : Channel α) : channel.take.1.closed = channel.closed := by
  rcases channel.take_eq with ⟨_, _, _, taken⟩ | ⟨_, taken⟩ <;> rw [taken] <;> rfl

theorem waiting_of_take_none (empty : channel.take.2 = none) :
    channel.waiting = [] ∧ channel.take.1.waiting = [] := by
  have same : channel.take = (channel.take.1, none) := by rw [← empty]
  have idle : channel.waiting = [] := waiting_take_none same
  refine ⟨idle, ?_⟩
  rcases channel.take_eq with ⟨_, _, _, taken⟩ | ⟨_, taken⟩
  · rw [taken] at empty
    cases empty
  · rw [taken, waiting_pull, idle]

end Taking

theorem after_take (channel : Channel α) (party : Party) :
    channel.after (.take party)
      = if channel.take.2.isSome then channel.take.1 else channel.take.1.parkReceiver party := by
  simp only [after]
  split <;> rename_i taken
  · simp [taken]
  · simp [taken]

@[simp]
theorem queue_after_take (channel : Channel α) (party : Party) :
    (channel.after (.take party)).queue = channel.take.1.queue := by
  rw [after_take]
  split <;> rfl

@[simp]
theorem senders_after_take (channel : Channel α) (party : Party) :
    (channel.after (.take party)).senders = channel.take.1.senders := by
  rw [after_take]
  split <;> rfl

@[simp]
theorem handed_after_take (channel : Channel α) (party : Party) :
    (channel.after (.take party)).handed = channel.take.1.handed := by
  rw [after_take]
  split <;> rfl

theorem waiting_drop_eq_nil {rest : List α} (idle : channel.waiting = [])
    (shorter : ∀ message ∈ rest, message ∈ channel.waiting) : rest = [] := by
  rw [List.eq_nil_iff_forall_not_mem]
  intro message mem
  simpa [idle] using shorter message mem

theorem eager_of_receivers_eq {next : Channel α} (eager : channel.Eager)
    (same : next.receivers = channel.receivers)
    (shorter : ∀ message ∈ next.waiting, message ∈ channel.waiting) : next.Eager := by
  intro parked
  rw [same] at parked
  exact waiting_drop_eq_nil (eager parked) shorter

theorem eager_of_offer? {offered : Channel α} {message : α} (eager : channel.Eager)
    (sent : channel.offer? message = some offered) : offered.Eager := by
  intro still
  rw [receivers_of_offer? sent] at still
  cases parked : channel.receivers with
  | nil => simp [parked] at still
  | cons receiver rest =>
      rw [offer?_of_receivers parked] at sent
      obtain rfl := Option.some.inj sent
      exact eager (by simp [parked])

section Waiting

theorem mem_waiting_of_offer? {offered : Channel α} {message other : α}
    (sent : channel.offer? message = some offered) (mem : other ∈ offered.waiting) :
    other ∈ channel.waiting ∨ other = message := by
  cases parked : channel.receivers with
  | cons receiver rest =>
      rw [offer?_of_receivers parked] at sent
      obtain rfl := Option.some.inj sent
      exact Or.inl mem
  | nil =>
      rw [offer?_of_no_receivers parked] at sent
      split at sent
      · obtain rfl := Option.some.inj sent
        simp only [waiting, Fifo.toList_push, List.mem_append, List.mem_singleton] at mem ⊢
        rcases mem with (queued | same) | parked
        · exact Or.inl (Or.inl queued)
        · exact Or.inr same
        · exact Or.inl (Or.inr parked)
      · cases sent

theorem mem_waiting_take {message : α} (mem : message ∈ channel.take.1.waiting) :
    message ∈ channel.waiting := by
  cases found : channel.take.2 with
  | some first =>
      have same : channel.take = (channel.take.1, some first) := by rw [← found]
      rw [waiting_take_some same]
      exact List.mem_cons_of_mem first mem
  | none =>
      rw [(waiting_of_take_none found).2] at mem
      cases mem

/-- A message that waits waited before, or it was just sent. -/
theorem mem_waiting_after {use : Use α} {message : α}
    (mem : message ∈ (channel.after use).waiting) : message ∈ channel.waiting ∨
      ∃ party, use = .send party message ∨ use = .offer party message := by
  cases use with
  | send party other =>
      cases sent : channel.offer? other with
      | some offered =>
          simp only [after, sent, Option.getD_some] at mem
          rcases mem_waiting_of_offer? sent mem with older | rfl
          · exact Or.inl older
          · exact Or.inr ⟨party, Or.inl rfl⟩
      | none =>
          simp only [after, sent, Option.getD_none, parkSender, waiting, List.map_append,
            List.mem_append, List.map_cons, List.map_nil, List.mem_singleton] at mem
          rcases mem with queued | parked | rfl
          · exact Or.inl (List.mem_append_left _ queued)
          · exact Or.inl (List.mem_append_right _ parked)
          · exact Or.inr ⟨party, Or.inl rfl⟩
  | offer party other =>
      cases sent : channel.offer? other with
      | some offered =>
          simp only [after, sent, Option.getD_some] at mem
          rcases mem_waiting_of_offer? sent mem with older | rfl
          · exact Or.inl older
          · exact Or.inr ⟨party, Or.inr rfl⟩
      | none =>
          simp only [after, sent, Option.getD_none] at mem
          exact Or.inl mem
  | withdraw party =>
      refine Or.inl ?_
      simp only [after, withdrawSender, waiting, List.mem_append, List.mem_map,
        List.mem_filter] at mem ⊢
      rcases mem with queued | ⟨sender, ⟨mem, _⟩, rfl⟩
      · exact Or.inl queued
      · exact Or.inr ⟨sender, mem, rfl⟩
  | take party =>
      rw [after_take] at mem
      refine Or.inl (mem_waiting_take ?_)
      split at mem <;> exact mem
  | seek party => exact Or.inl (mem_waiting_take mem)
  | drain party =>
      rw [waiting_drain]
      exact Or.inl (List.mem_append_right _ mem)
  | look => exact Or.inl (by simpa [after, size] using mem)
  | nothing | pickUp | leave | close => exact Or.inl mem

/-- A message that is handed to a receiver was handed to it before, or it was just sent. -/
theorem mem_handed_after {use : Use α} {row : Party × α} (mem : row ∈ (channel.after use).handed) :
    row ∈ channel.handed ∨ ∃ party, use = .send party row.2 ∨ use = .offer party row.2 := by
  have serves {offered : Channel α} {message : α} (sent : channel.offer? message = some offered)
      (mem : row ∈ offered.handed) : row ∈ channel.handed ∨ message = row.2 := by
    rw [handed_of_offer? sent, List.mem_append, Option.mem_toList, Option.map_eq_some_iff] at mem
    rcases mem with older | ⟨receiver, _, rfl⟩
    · exact Or.inl older
    · exact Or.inr rfl
  cases use with
  | send party message =>
      cases sent : channel.offer? message with
      | some offered =>
          simp only [after, sent, Option.getD_some] at mem
          rcases serves sent mem with older | rfl
          · exact Or.inl older
          · exact Or.inr ⟨party, Or.inl rfl⟩
      | none =>
          simp only [after, sent, Option.getD_none] at mem
          exact Or.inl mem
  | offer party message =>
      cases sent : channel.offer? message with
      | some offered =>
          simp only [after, sent, Option.getD_some] at mem
          rcases serves sent mem with older | rfl
          · exact Or.inl older
          · exact Or.inr ⟨party, Or.inr rfl⟩
      | none =>
          simp only [after, sent, Option.getD_none] at mem
          exact Or.inl mem
  | take party =>
      rw [handed_after_take, handed_take] at mem
      exact Or.inl mem
  | seek party => exact Or.inl (channel.handed_take ▸ mem)
  | pickUp party => exact Or.inl (List.mem_filter.mp mem).1
  | nothing | withdraw | drain | look | leave | close => exact Or.inl mem

end Waiting

theorem eager_after (eager : channel.Eager) (use : Use α) : (channel.after use).Eager := by
  have keeps (same : (channel.after use).receivers = channel.receivers)
      (silent : ∀ party message, use ≠ .send party message ∧ use ≠ .offer party message) :
      (channel.after use).Eager := by
    refine eager_of_receivers_eq eager same fun message mem => ?_
    refine (mem_waiting_after mem).resolve_right ?_
    rintro ⟨party, sends | offers⟩
    · exact (silent party message).1 sends
    · exact (silent party message).2 offers
  cases use with
  | send party message =>
      cases sent : channel.offer? message with
      | some offered => simpa [after, sent] using eager_of_offer? eager sent
      | none =>
          intro parked
          have refused := offer?_eq_none_iff.mp sent
          simp only [after, sent, Option.getD_none, parkSender] at parked
          simp [accepts, parked] at refused
  | offer party message =>
      cases sent : channel.offer? message with
      | some offered => simpa [after, sent] using eager_of_offer? eager sent
      | none => simpa [after, sent] using eager
  | take party =>
      cases found : channel.take.2 with
      | some first =>
          refine keeps ?_ (by simp)
          rw [after_take, found]
          exact channel.receivers_take
      | none =>
          intro _
          rw [after_take, found]
          exact (waiting_of_take_none found).2
  | seek party => exact keeps channel.receivers_take (by simp)
  | leave party =>
      intro parked
      refine eager ?_
      rintro alone
      simp [after, withdrawReceiver, alone] at parked
  | nothing | withdraw | drain | look | pickUp | close => exact keeps rfl (by simp)

/-- What was in the queue, followed by what arrives, is what departs, followed by what is in the
queue then. -/
theorem queue_after (eager : channel.Eager) (use : Use α) :
    channel.queue.toList ++ (channel.arrivals use).map (·.2)
      = (channel.departures use).map (·.2) ++ (channel.after use).queue.toList := by
  cases use with
  | send party message =>
      cases sent : channel.offer? message with
      | some offered =>
          have accepted : channel.accepts = true := by
            rw [← isSome_offer? channel message, sent]
            rfl
          simpa [arrivals, departures, after, accepted, sent] using queue_of_offer? eager sent
      | none =>
          have refused := offer?_eq_none_iff.mp sent
          have alone : channel.receivers = [] := by
            simpa [accepts] using (Bool.or_eq_false_iff.mp refused).1
          simp [arrivals, departures, after, refused, sent, alone, parkSender]
  | offer party message =>
      cases sent : channel.offer? message with
      | some offered =>
          have accepted : channel.accepts = true := by
            rw [← isSome_offer? channel message, sent]
            rfl
          simpa [arrivals, departures, after, accepted, sent] using queue_of_offer? eager sent
      | none =>
          have refused := offer?_eq_none_iff.mp sent
          have alone : channel.receivers = [] := by
            simpa [accepts] using (Bool.or_eq_false_iff.mp refused).1
          simp [arrivals, departures, after, refused, sent, alone]
  | take party =>
      rw [queue_after_take]
      cases found : channel.take.2 <;>
        simpa [arrivals, departures, found] using channel.queue_take
  | seek party =>
      cases found : channel.take.2 <;>
        simpa [arrivals, departures, after, found] using channel.queue_take
  | drain party =>
      have filled := channel.queue_pull 0
      simp [arrivals, departures, after, drain, filled, Function.comp_def]
  | look =>
      have filled := channel.queue_pull 0
      simp [arrivals, departures, after, size, filled]
  | nothing | withdraw | pickUp | leave | close =>
      simp [arrivals, departures, after, withdrawSender, Channel.pickUp, withdrawReceiver]

end Coordination.Channel
