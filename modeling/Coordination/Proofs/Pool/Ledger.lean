import Coordination.Proofs.Pool.Parking

/-!
# Ledgers of a channel

`queue_after` follows the messages of a channel through its queue, without asking whose they are. Two
more laws follow the messages of one party (`share`). What it posts arrives, is withdrawn, or stands
parked with it (`posting_after`). What departs for it is received by it, or lies handed to it until it
picks that up (`receiving_after`). In both the messages of the party keep their order. Nothing departs
for a party that has not asked for it (`serving_after`).

Where only numbers matter, one law is enough for all parties: what a channel has and what is posted is
received, or taken back, or still there (`stock_after`).
-/

namespace Coordination.Channel

variable {α : Type}

/-- The messages of a party in a ledger, in their order. -/
def share (party : Party) (rows : List (Party × α)) : List α :=
  rows.filterMap fun row => if row.1 = party then some row.2 else none

section Shares

variable {party other : Party} {rows : List (Party × α)}

@[simp]
theorem share_nil (party : Party) : share party ([] : List (Party × α)) = [] := rfl

@[simp]
theorem share_append (party : Party) (rows later : List (Party × α)) :
    share party (rows ++ later) = share party rows ++ share party later :=
  List.filterMap_append

@[simp]
theorem share_flatMap {β : Type} (party : Party) (entries : List β) (f : β → List (Party × α)) :
    share party (entries.flatMap f) = entries.flatMap fun entry => share party (f entry) := by
  induction entries with
  | nil => rfl
  | cons entry rest ih => simp only [List.flatMap_cons, share_append, ih]

theorem share_cons (party : Party) (row : Party × α) (rows : List (Party × α)) :
    share party (row :: rows) = if row.1 = party then row.2 :: share party rows
      else share party rows := by
  simp only [share, List.filterMap_cons]
  split <;> simp_all

theorem share_eq_nil_iff : share party rows = [] ↔ ∀ row ∈ rows, row.1 ≠ party := by
  simp [share, List.filterMap_eq_nil_iff]

theorem mem_share_iff {message : α} : message ∈ share party rows ↔ (party, message) ∈ rows := by
  simp only [share, List.mem_filterMap, Option.ite_none_right_eq_some, Option.some.injEq]
  constructor
  · rintro ⟨row, mem, rfl, rfl⟩
    exact mem
  · intro mem
    exact ⟨(party, message), mem, rfl, rfl⟩

theorem share_pairs (party other : Party) (messages : List α) :
    share other (messages.map (party, ·)) = if party = other then messages else [] := by
  induction messages with
  | nil => simp
  | cons message rest ih =>
      rw [List.map_cons, share_cons, ih]
      split <;> rfl

theorem share_single (party other : Party) (message : α) :
    share other [(party, message)] = if party = other then [message] else [] :=
  share_pairs party other [message]

theorem share_filter_own (party other : Party) (rows : List (Party × α)) :
    share other (rows.filter fun row => row.1 = party)
      = if party = other then share other rows else [] := by
  induction rows with
  | nil => simp
  | cons row rest ih =>
      by_cases own : row.1 = party
      · simp only [List.filter_cons, own, decide_true, if_true, share_cons, ih]
        split <;> rfl
      · simp only [List.filter_cons, own, decide_false, Bool.false_eq_true, if_false, share_cons, ih]
        split
        · rename_i same
          subst same
          simp [own]
        · rfl

theorem share_filter_others (party other : Party) (rows : List (Party × α)) :
    share other (rows.filter fun row => !decide (row.1 = party))
      = if party = other then [] else share other rows := by
  induction rows with
  | nil => simp
  | cons row rest ih =>
      by_cases own : row.1 = party
      · simp only [List.filter_cons, own, decide_true, Bool.not_true, Bool.false_eq_true, if_false,
          share_cons, ih]
        split <;> rfl
      · simp only [List.filter_cons, own, decide_false, Bool.not_false, if_true, share_cons, ih]
        by_cases same : party = other
        · subst same
          simp [own]
        · simp [same]

end Shares

variable {channel : Channel α}

/-- Whether a party looks for a message itself. -/
def Use.asks (party : Party) : Use α → Bool
  | .take other | .seek other => other = party
  | _ => false

/-- The messages that a use brings to a channel. -/
def posts (channel : Channel α) : Use α → List (Party × α)
  | .send party message => [(party, message)]
  | .offer party message => if channel.accepts then [(party, message)] else []
  | _ => []

/-- The messages that a use takes back. -/
def withdrawals (channel : Channel α) : Use α → List (Party × α)
  | .withdraw party => channel.senders.filter (·.1 = party)
  | _ => []

/-- The messages that the party of a use has when it is over. -/
def receipts (channel : Channel α) : Use α → List (Party × α)
  | .take party | .seek party => (channel.take.2.map (party, ·)).toList
  | .drain party => channel.drain.2.map (party, ·)
  | .pickUp party => channel.handed.filter (·.1 = party)
  | _ => []

theorem share_handed {party : Party} (absent : party ∉ channel.seats) : share party channel.handed = [] := by
  rw [share_eq_nil_iff]
  rintro row mem rfl
  exact absent (List.mem_append_right _ (List.mem_map_of_mem mem))

/-- What a party posts arrives, or is withdrawn, or stands parked with it. -/
theorem posting_after (party : Party) (use : Use α)
    (free : ∀ message, use = .send party message ∨ use = .offer party message →
      share party channel.senders = []) :
    share party channel.senders ++ share party (channel.posts use)
      = share party (channel.arrivals use) ++ share party (channel.withdrawals use)
        ++ share party (channel.after use).senders := by
  have admitted (spare : Nat) : share party channel.senders
      = share party (channel.admission spare)
        ++ share party (channel.senders.drop (channel.admitted spare)) := by
    rw [admission, ← share_append, List.take_append_drop]
  cases use with
  | send other message =>
      cases sent : channel.offer? message with
      | none =>
          have refused := offer?_eq_none_iff.mp sent
          simp [posts, arrivals, withdrawals, after, refused, sent, parkSender]
      | some offered =>
          have accepted : channel.accepts = true := by rw [← isSome_offer? channel message, sent]; rfl
          by_cases own : other = party
          · subst own
            simp [posts, arrivals, withdrawals, after, accepted, sent, senders_of_offer? sent,
              free message (Or.inl rfl)]
          · simp [posts, arrivals, withdrawals, after, accepted, sent, senders_of_offer? sent,
              share_single, own]
  | offer other message =>
      cases sent : channel.offer? message with
      | none =>
          have refused := offer?_eq_none_iff.mp sent
          simp [posts, arrivals, withdrawals, after, refused, sent]
      | some offered =>
          have accepted : channel.accepts = true := by rw [← isSome_offer? channel message, sent]; rfl
          by_cases own : other = party
          · subst own
            simp [posts, arrivals, withdrawals, after, accepted, sent, senders_of_offer? sent,
              free message (Or.inr rfl)]
          · simp [posts, arrivals, withdrawals, after, accepted, sent, senders_of_offer? sent,
              share_single, own]
  | withdraw other =>
      by_cases own : other = party <;>
        simp [posts, arrivals, withdrawals, after, withdrawSender, share_filter_own,
          share_filter_others, own]
  | take other =>
      simpa [posts, arrivals, withdrawals, senders_take] using admitted 1
  | seek other =>
      simpa [posts, arrivals, withdrawals, after, senders_take] using admitted 1
  | drain other => simpa [posts, arrivals, withdrawals, after, drain, senders_pull] using admitted 0
  | look => simpa [posts, arrivals, withdrawals, after, size, senders_pull] using admitted 0
  | nothing | pickUp | leave | close =>
      simp [posts, arrivals, withdrawals, after, pickUp, withdrawReceiver]

/-- What departs for a party is received by it, or lies handed to it. -/
theorem receiving_after (party : Party) (use : Use α)
    (free : use = .take party ∨ use = .seek party ∨ use = .drain party →
      share party channel.handed = []) :
    share party channel.handed ++ share party (channel.departures use)
      = share party (channel.receipts use) ++ share party (channel.after use).handed := by
  have served (other : Party) (messages : List α)
      (empty : other = party → share party channel.handed = []) :
      share party channel.handed ++ share party (messages.map (other, ·))
        = share party (messages.map (other, ·)) ++ share party channel.handed := by
    rw [share_pairs]
    split
    · rename_i own
      rw [empty own, List.nil_append, List.append_nil]
    · simp
  cases use with
  | send other message =>
      cases sent : channel.offer? message with
      | none =>
          have refused := offer?_eq_none_iff.mp sent
          have alone : channel.receivers = [] := by
            simpa [accepts] using (Bool.or_eq_false_iff.mp refused).1
          simp [departures, receipts, after, sent, parkSender, alone]
      | some offered => simp [departures, receipts, after, sent, handed_of_offer? sent]
  | offer other message =>
      cases sent : channel.offer? message with
      | none =>
          have refused := offer?_eq_none_iff.mp sent
          have alone : channel.receivers = [] := by
            simpa [accepts] using (Bool.or_eq_false_iff.mp refused).1
          simp [departures, receipts, after, sent, alone]
      | some offered => simp [departures, receipts, after, sent, handed_of_offer? sent]
  | take other =>
      have taken := served other channel.take.2.toList (fun own => free (Or.inl (by rw [own])))
      simpa [departures, receipts, handed_take, Option.toList_map] using taken
  | seek other =>
      have taken := served other channel.take.2.toList
        (fun own => free (Or.inr (Or.inl (by rw [own]))))
      simpa [departures, receipts, after, handed_take, Option.toList_map] using taken
  | drain other =>
      have taken := served other channel.drain.2 (fun own => free (Or.inr (Or.inr (by rw [own]))))
      simpa [departures, receipts, after, drain] using taken
  | pickUp other =>
      by_cases own : other = party <;>
        simp [departures, receipts, after, pickUp, share_filter_own, share_filter_others, own]
  | nothing | withdraw | look | leave | close =>
      simp [departures, receipts, after, withdrawSender, size, withdrawReceiver]

/-- What departs for a party, unless the party drains the queue, was asked for: the party was parked
as a receiver, or it looks for a message now. -/
theorem serving_after (party : Party) (use : Use α) (sips : use ≠ .drain party) :
    (share party (channel.departures use)).length + (channel.after use).receivers.count party
      ≤ channel.receivers.count party + (use.asks party).toNat := by
  have offering (message : α) :
      (share party (channel.receivers.head?.map (·, message)).toList).length
        + ((channel.offer? message).getD channel).receivers.count party
        ≤ channel.receivers.count party := by
    cases parked : channel.receivers with
    | nil =>
        rw [offer?_of_no_receivers parked]
        split <;> simp [parked]
    | cons receiver rest =>
        rw [offer?_of_receivers parked]
        simp only [List.head?_cons, Option.map_some, Option.toList_some, Option.getD_some,
          share_single, List.count_cons, beq_iff_eq]
        split <;> simp [Nat.add_comm]
  have taking (other : Party) : (share party (channel.take.2.map (other, ·)).toList).length
      ≤ (decide (other = party)).toNat := by
    cases channel.take.2 with
    | none => simp
    | some message => by_cases own : other = party <;> simp [share_single, own]
  cases use with
  | send other message =>
      refine Nat.le_trans ?_ (offering message)
      cases sent : channel.offer? message <;> simp [departures, after, sent, parkSender]
  | offer other message => exact offering message
  | take other =>
      rw [after_take]
      cases found : channel.take.2 with
      | none =>
          by_cases own : other = party <;>
            simp [departures, Use.asks, found, parkReceiver, receivers_take, own]
      | some message =>
          have taken := taking other
          simp only [departures, Use.asks, found, Option.isSome_some, if_true, receivers_take]
          rw [found] at taken
          exact Nat.add_comm _ _ ▸ Nat.add_le_add_left taken _
  | seek other =>
      simp only [departures, Use.asks, after, receivers_take]
      exact Nat.add_comm _ _ ▸ Nat.add_le_add_left (taking other) _
  | drain other =>
      have apart : other ≠ party := by
        rintro rfl
        exact sips rfl
      simp [departures, Use.asks, after, drain, share_pairs, apart]
  | leave other =>
      simpa [departures, Use.asks, after, withdrawReceiver] using
        List.filter_sublist.count_le party
  | nothing | withdraw | look | pickUp | close =>
      simp [departures, Use.asks, after, withdrawSender, size, Channel.pickUp]

section Stock

/-- How many messages of a kind are in the hands of a channel: they wait, or they are handed to receivers. -/
def stock (channel : Channel α) (kind : α → Bool) : Nat :=
  channel.waiting.countP kind + channel.handed.countP (kind ·.2)

theorem stock_of_offer? {offered : Channel α} {message : α}
    (sent : channel.offer? message = some offered) (kind : α → Bool) :
    offered.stock kind = channel.stock kind + if kind message then 1 else 0 := by
  cases parked : channel.receivers with
  | cons receiver rest =>
      rw [offer?_of_receivers parked] at sent
      obtain rfl := Option.some.inj sent
      simp only [stock, waiting, List.countP_append, List.countP_singleton]
      omega
  | nil =>
      rw [offer?_of_no_receivers parked] at sent
      split at sent
      · obtain rfl := Option.some.inj sent
        simp only [stock, waiting, Fifo.toList_push, List.countP_append, List.countP_singleton]
        omega
      · cases sent

theorem stock_take (channel : Channel α) (kind : α → Bool) :
    channel.stock kind = channel.take.2.toList.countP kind + channel.take.1.stock kind := by
  rw [stock, stock, handed_take]
  cases found : channel.take.2 with
  | some message =>
      have same : channel.take = (channel.take.1, some message) := by rw [← found]
      rw [waiting_take_some same, List.countP_cons, Option.toList_some, List.countP_singleton]
      omega
  | none =>
      have empty := waiting_of_take_none found
      rw [empty.1, empty.2]
      simp

/-- What was there and what is posted is received, or taken back, or is there then. -/
theorem stock_after (use : Use α) (kind : α → Bool) :
    channel.stock kind + (channel.posts use).countP (kind ·.2)
      = (channel.receipts use).countP (kind ·.2) + (channel.withdrawals use).countP (kind ·.2)
        + (channel.after use).stock kind := by
  have parts (rows : List (Party × α)) (party : Party) : rows.countP (kind ·.2)
      = (rows.filter (·.1 = party)).countP (kind ·.2)
        + (rows.filter (·.1 ≠ party)).countP (kind ·.2) := by
    rw [List.countP_filter, List.countP_filter]
    have split := List.countP_eq_countP_filter_add rows (kind ·.2) (·.1 = party)
    simpa [List.countP_filter] using split
  cases use with
  | send party message =>
      cases sent : channel.offer? message with
      | some offered =>
          simp [posts, receipts, withdrawals, after, sent, stock_of_offer? sent kind]
      | none =>
          simp only [posts, receipts, withdrawals, after, sent, stock, waiting, parkSender,
            Option.getD_none, List.map_append, List.countP_append, List.countP_nil, List.map_cons,
            List.map_nil, List.countP_singleton]
          omega
  | offer party message =>
      cases sent : channel.offer? message with
      | some offered =>
          have accepted : channel.accepts = true := by
            rw [← isSome_offer? channel message, sent]
            rfl
          simp [posts, receipts, withdrawals, after, sent, accepted, stock_of_offer? sent kind]
      | none =>
          have refused := offer?_eq_none_iff.mp sent
          simp [posts, receipts, withdrawals, after, sent, refused]
  | withdraw party =>
      have split := parts channel.senders party
      simp only [posts, receipts, withdrawals, after, stock, waiting, withdrawSender,
        List.countP_append, List.countP_nil, List.countP_map, Function.comp_def]
      omega
  | take party =>
      have taken := channel.stock_take kind
      have received : (channel.take.2.map (party, ·)).toList.countP (kind ·.2)
          = channel.take.2.toList.countP kind := by
        cases channel.take.2 <;> rfl
      have same : (channel.after (.take party)).stock kind = channel.take.1.stock kind := by
        rw [after_take]
        split <;> rfl
      simp only [posts, receipts, withdrawals, List.countP_nil, received, same]
      omega
  | seek party =>
      have taken := channel.stock_take kind
      have received : (channel.take.2.map (party, ·)).toList.countP (kind ·.2)
          = channel.take.2.toList.countP kind := by
        cases channel.take.2 <;> rfl
      simp only [posts, receipts, withdrawals, after, List.countP_nil, received]
      omega
  | drain party =>
      have received : (channel.drain.2.map (party, ·)).countP (kind ·.2)
          = channel.drain.2.countP kind := List.countP_map
      have handed : channel.drain.1.handed = channel.handed := rfl
      simp only [posts, receipts, withdrawals, after, stock, handed, received, waiting_drain channel,
        List.countP_append, List.countP_nil]
      omega
  | look => simp [posts, receipts, withdrawals, after, size, stock]
  | pickUp party =>
      have split := parts channel.handed party
      simp only [posts, receipts, withdrawals, after, stock, waiting, pickUp, List.countP_nil]
      omega
  | nothing | leave | close =>
      simp [posts, receipts, withdrawals, after, withdrawReceiver, stock, waiting]
end Stock

end Coordination.Channel
