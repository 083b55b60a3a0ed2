import Coordination.Proofs.Pool.Transition

/-!
# Who is parked at the queue

A caller is parked with a message only while it is in the middle of sending that message, and with
one message only (`Sending`). A worker is parked exactly if it waits as a receiver or has been handed
a message that it has not picked up, and it never does both (`Seated`). Together with the fact that
nobody waits for a message that is there, this is an invariant of every pool (`parking_of_history`).
-/

namespace Coordination

namespace Channel

variable {α : Type} {channel : Channel α}

/-- The parties that are parked as receivers or have a message to pick up. -/
def seats (channel : Channel α) : List Party := channel.receivers ++ channel.handed.map (·.1)

theorem senders_after_send_full {party : Party} {message : α} (full : channel.accepts = false) :
    (channel.after (.send party message)).senders = channel.senders ++ [(party, message)] := by
  simp [after, offer?_eq_none_iff.mpr full, parkSender]

/-- Only a party that cannot send parks with its message. -/
theorem senders_after_sublist (channel : Channel α) (use : Use α)
    (sends : ∀ party message, use = .send party message → channel.accepts = true) :
    (channel.after use).senders.Sublist channel.senders := by
  cases use with
  | send party message =>
      have accepts := sends party message rfl
      rw [← isSome_offer? channel message, Option.isSome_iff_exists] at accepts
      rcases accepts with ⟨offered, sent⟩
      simp [after, sent, senders_of_offer? sent]
  | offer party message =>
      cases sent : channel.offer? message with
      | some offered => simp [after, sent, senders_of_offer? sent]
      | none => simp [after, sent]
  | withdraw party => exact List.filter_sublist
  | take party =>
      rw [senders_after_take, senders_take]
      exact List.drop_sublist _ _
  | seek party =>
      simp only [after, senders_take]
      exact List.drop_sublist _ _
  | drain party => exact List.drop_sublist _ _
  | look => exact List.drop_sublist _ _
  | nothing | pickUp | leave | close => exact List.Sublist.refl _

theorem seats_of_offer? {offered : Channel α} {message : α}
    (sent : channel.offer? message = some offered) : offered.seats.Perm channel.seats := by
  rw [seats, seats, receivers_of_offer? sent, handed_of_offer? sent]
  cases channel.receivers with
  | nil => simp
  | cons receiver rest =>
      simp only [List.tail_cons, List.head?_cons, Option.map_some, Option.toList_some,
        List.map_append, List.map_cons, List.map_nil, ← List.append_assoc]
      exact List.perm_append_singleton receiver _

/-- A party stays in its seat when it is handed a message. -/
theorem seats_after_keep {use : Use α} (stays : match use with
      | .take _ => channel.take.2 ≠ none
      | .pickUp _ | .leave _ => False
      | _ => True) : (channel.after use).seats.Perm channel.seats := by
  cases use with
  | send party message =>
      cases sent : channel.offer? message with
      | some offered => simpa [after, sent] using seats_of_offer? sent
      | none =>
          simp only [after, sent, Option.getD_none]
          exact List.Perm.refl _
  | offer party message =>
      cases sent : channel.offer? message with
      | some offered => simpa [after, sent] using seats_of_offer? sent
      | none => simp [after, sent]
  | take party =>
      rw [after_take, if_pos (Option.isSome_iff_ne_none.mpr stays), seats, receivers_take, handed_take]
      exact List.Perm.refl _
  | seek party =>
      simp only [after, seats, receivers_take, handed_take]
      exact List.Perm.refl _
  | pickUp party => exact stays.elim
  | leave party => exact stays.elim
  | nothing | withdraw | drain | look | close => exact List.Perm.refl _

theorem seats_after_park {party : Party} (empty : channel.take.2 = none) :
    (channel.after (.take party)).seats.Perm (party :: channel.seats) := by
  rw [after_take, empty]
  simp only [Option.isSome_none, Bool.false_eq_true, if_false, seats, parkReceiver, receivers_take,
    handed_take, List.append_assoc]
  exact List.perm_middle

theorem mem_handed_of_handed? {party : Party} {message : α}
    (handed : channel.handed? party = some message) : (party, message) ∈ channel.handed := by
  rw [handed?, List.lookup_eq_some_iff] at handed
  rcases handed with ⟨before, rest, same, _⟩
  simp [same]

theorem handed?_eq_none_iff {party : Party} :
    channel.handed? party = none ↔ party ∉ channel.handed.map (·.1) := by
  rw [handed?, List.lookup_eq_none_iff]
  simp only [List.mem_map, bne_iff_ne]
  constructor
  · rintro absent ⟨row, mem, same⟩
    exact absent row mem same.symm
  · intro absent row mem same
    exact absent ⟨row, mem, same.symm⟩

/-- Nothing else is handed to a receiver with a message. -/
theorem filter_handed {party : Party} {message : α} (distinct : (channel.handed.map (·.1)).Nodup)
    (handed : channel.handed? party = some message) :
    channel.handed.filter (·.1 = party) = [(party, message)] := by
  rw [handed?, List.lookup_eq_some_iff] at handed
  rcases handed with ⟨before, rest, same, _⟩
  rw [same, List.map_append, List.map_cons, List.nodup_append, List.nodup_cons] at distinct
  have earlier : before.filter (·.1 = party) = [] := by
    rw [List.filter_eq_nil_iff]
    intro row mem own
    have listed : row.1 ∈ before.map (·.1) := List.mem_map_of_mem mem
    exact distinct.2.2 _ listed _ List.mem_cons_self (by simpa using own)
  have later : rest.filter (·.1 = party) = [] := by
    rw [List.filter_eq_nil_iff]
    intro row mem own
    have listed : row.1 ∈ rest.map (·.1) := List.mem_map_of_mem mem
    exact distinct.2.1.1 (by simpa [← (by simpa using own : row.1 = party)] using listed)
  rw [same, List.filter_append, List.filter_cons, earlier, later]
  simp

theorem mem_seats_pickUp {party other : Party} {message : α} (distinct : channel.seats.Nodup)
    (handed : channel.handed? party = some message) :
    other ∈ (channel.pickUp party).seats ↔ other ∈ channel.seats ∧ other ≠ party := by
  have mem : party ∈ channel.handed.map (·.1) :=
    List.mem_map_of_mem (mem_handed_of_handed? handed)
  have apart : party ∉ channel.receivers :=
    fun received => (List.nodup_append.mp distinct).2.2 _ received _ mem rfl
  simp only [seats, pickUp, List.mem_append, List.mem_map, List.mem_filter, ne_eq, decide_not,
    Bool.not_eq_true', decide_eq_false_iff_not]
  constructor
  · rintro (received | ⟨row, ⟨rowMem, rest⟩, rfl⟩)
    · refine ⟨Or.inl received, ?_⟩
      rintro rfl
      exact apart received
    · exact ⟨Or.inr ⟨row, rowMem, rfl⟩, rest⟩
  · rintro ⟨received | ⟨row, rowMem, rfl⟩, rest⟩
    · exact Or.inl received
    · exact Or.inr ⟨row, ⟨rowMem, rest⟩, rfl⟩

theorem mem_seats_leave {party other : Party} (empty : channel.handed? party = none) :
    other ∈ (channel.withdrawReceiver party).seats ↔ other ∈ channel.seats ∧ other ≠ party := by
  have apart := handed?_eq_none_iff.mp empty
  simp only [seats, withdrawReceiver, List.mem_append, List.mem_filter, ne_eq, decide_not,
    Bool.not_eq_true', decide_eq_false_iff_not]
  constructor
  · rintro (⟨received, rest⟩ | handed)
    · exact ⟨Or.inl received, rest⟩
    · refine ⟨Or.inr handed, ?_⟩
      rintro rfl
      exact apart handed
  · rintro ⟨received | handed, rest⟩
    · exact Or.inl ⟨received, rest⟩
    · exact Or.inr handed

theorem nodup_seats_pickUp {party : Party} (distinct : channel.seats.Nodup) :
    (channel.pickUp party).seats.Nodup :=
  distinct.sublist
    ((List.Sublist.refl channel.receivers).append (List.filter_sublist.map _))

theorem nodup_seats_leave {party : Party} (distinct : channel.seats.Nodup) :
    (channel.withdrawReceiver party).seats.Nodup :=
  distinct.sublist (List.filter_sublist.append (List.Sublist.refl _))

end Channel

/-- Whether a worker waits for an envelope. -/
def Worker.Phase.isParked {ι : Type} : Worker.Phase ι → Bool
  | .parked _ => true
  | _ => false

namespace PoolSystem

variable {ι σ : Type}

/-- A thread with some activity may be parked with an envelope. -/
def Activity.Parks : Activity ι → Envelope ι → Prop
  | .adding, .work _ => True
  | .restoring _ _, .exit => True
  | .offering _ _ _, .exit => True
  | _, _ => False

/-- Every parked sender is a caller in the middle of sending its message. -/
structure Sending (pool : PoolSystem ι σ) : Prop where
  parked : ∀ row ∈ pool.channel.senders,
    ∃ thread, row.1 = .caller thread ∧ (pool.activity thread).Parks row.2
  single : (pool.channel.senders.map (·.1)).Nodup

/-- A worker is parked. -/
def Waits (pool : PoolSystem ι σ) (id : Nat) : Prop :=
  ∃ worker, pool.workers[id]? = some worker ∧ worker.phase.isParked = true

/-- The parked workers are those in the seats of the queue. -/
structure Seated (pool : PoolSystem ι σ) : Prop where
  seats : ∀ party, party ∈ pool.channel.seats ↔ ∃ id, party = .agent id ∧ pool.Waits id
  distinct : pool.channel.seats.Nodup

/-- Who is parked at the queue of a pool. -/
structure Parking (pool : PoolSystem ι σ) : Prop where
  eager : pool.channel.Eager
  sending : Sending pool
  seated : Seated pool

variable {pool after : PoolSystem ι σ} {now : Instant} {move : Move ι σ}
  {use : Channel.Use (Envelope ι)} {reply : Option (Reply ι)}

theorem Sending.absent (sending : Sending pool) {thread : ThreadId}
    (free : ∀ envelope, ¬(pool.activity thread).Parks envelope) :
    ∀ row ∈ pool.channel.senders, row.1 ≠ .caller thread := by
  intro row mem same
  rcases sending.parked row mem with ⟨other, place, parks⟩
  rw [same] at place
  cases place
  exact free row.2 parks

theorem not_mem_of_isSending {channel : Channel (Envelope ι)} {party : Party}
    (sent : channel.isSending party = false) : ∀ row ∈ channel.senders, row.1 ≠ party := by
  simpa [Channel.isSending] using sent

theorem waits_iff_of_found {id : Nat} {worker : Worker ι σ}
    (found : pool.workers[id]? = some worker) :
    pool.Waits id ↔ worker.phase.isParked = true := by
  simp [Waits, found]

theorem not_waits_of_found {id : Nat} {worker : Worker ι σ}
    (found : pool.workers[id]? = some worker) (stands : worker.phase.isParked = false) :
    ¬pool.Waits id := by
  rw [waits_iff_of_found found, stands]
  exact Bool.false_ne_true

theorem isParked_afterTake (worker : Worker ι σ) (envelope : Option (Envelope ι)) :
    (worker.afterTake envelope).1.phase.isParked = false := by
  rcases envelope with _ | _ | _ <;> rfl

theorem isParked_afterLook (worker : Worker ι σ) (terminated : Bool) :
    (worker.afterLook terminated).1.phase.isParked = false := by
  cases terminated <;> rfl

theorem isParked_of_calls {phase : Worker.Phase ι} (calls : phase.calls = true) :
    phase.isParked = false := by
  cases phase <;> first | rfl | cases calls

theorem isParked_afterCallback (worker : Worker ι σ) (calls : worker.phase.calls = true)
    (ending : CallbackEnding) : (worker.afterCallback ending).1.phase.isParked = false := by
  cases phase : worker.phase <;> cases ending <;>
    simp_all [Worker.afterCallback, Worker.Phase.calls, Worker.afterItem, Worker.afterFailure,
      Worker.Phase.isParked]

variable [Inhabited σ]

namespace Sending

/-- Senders may get in or give up, and a thread that is not parked may turn to something else. -/
theorem keep (sending : Sending pool) (step : Transition pool now move use after reply)
    (fewer : (pool.channel.after use).senders.Sublist pool.channel.senders)
    (gone : ∀ row ∈ (pool.channel.after use).senders, row.1 ≠ move.party) : Sending after := by
  rw [← step.channel] at fewer gone
  constructor
  · intro row mem
    rcases sending.parked row (fewer.subset mem) with ⟨thread, place, parks⟩
    refine ⟨thread, place, ?_⟩
    rw [step.activity_of_ne]
    · exact parks
    · intro own
      exact gone row mem (place.trans own.symm)
  · exact sending.single.sublist (fewer.map _)

theorem keepFree {thread : ThreadId} (sending : Sending pool)
    (step : Transition pool now move use after reply) (own : move.party = .caller thread)
    (free : ∀ envelope, ¬(pool.activity thread).Parks envelope)
    (sends : ∀ party message, use = .send party message → pool.channel.accepts = true) :
    Sending after := by
  have fewer := pool.channel.senders_after_sublist use sends
  refine sending.keep step fewer ?_
  intro row mem
  rw [own]
  exact sending.absent free row (fewer.subset mem)

theorem keepWorker {id : Nat} (sending : Sending pool)
    (step : Transition pool now move use after reply) (own : move.party = .agent id)
    (quiet : ∀ party message, use ≠ .send party message) : Sending after := by
  have fewer := pool.channel.senders_after_sublist use
    (fun party message same => absurd same (quiet party message))
  refine sending.keep step fewer ?_
  intro row mem same
  rcases sending.parked row (fewer.subset mem) with ⟨thread, place, parks⟩
  rw [own, place] at same
  cases same

theorem park {thread : ThreadId} {envelope : Envelope ι} (sending : Sending pool)
    (step : Transition pool now move (.send (.caller thread) envelope) after reply)
    (own : move.party = .caller thread) (full : pool.channel.accepts = false)
    (free : ∀ envelope, ¬(pool.activity thread).Parks envelope)
    (parks : (after.activity thread).Parks envelope) : Sending after := by
  have more : after.channel.senders = pool.channel.senders ++ [(.caller thread, envelope)] := by
    rw [step.channel]
    exact Channel.senders_after_send_full full
  have unparked := sending.absent free
  constructor
  · intro row mem
    rw [more, List.mem_append, List.mem_singleton] at mem
    rcases mem with mem | rfl
    · rcases sending.parked row mem with ⟨other, place, old⟩
      refine ⟨other, place, ?_⟩
      rw [step.activity_of_ne]
      · exact old
      · rw [own, ← place]
        exact (unparked row mem).symm
    · exact ⟨thread, rfl, parks⟩
  · rw [more, List.map_append, List.nodup_append]
    refine ⟨sending.single, by simp, ?_⟩
    intro party mem other otherMem same
    rcases List.mem_map.mp mem with ⟨row, rowMem, rfl⟩
    simp only [List.map_cons, List.map_nil, List.mem_singleton] at otherMem
    exact unparked row rowMem (same.trans otherMem)

end Sending

/-- Every step keeps the senders in order. -/
theorem sending_of_transition (sending : Sending pool)
    (step : Transition pool now move use after reply) : Sending after := by
  have taken := step
  cases step with
  | refuse idle | abandon idle | launch idle | fallShort idle | waitBeside idle | waitIdle _ idle
  | takeOver _ idle | interrupt idle | own idle | disown idle | abandonIdle idle
  | abandonRunning idle | offer idle | clear idle | inspect idle =>
      exact sending.keepFree taken rfl (by simp [idle, Activity.Parks]) (by simp)
  | add idle accepts =>
      exact sending.keepFree taken rfl (by simp [idle, Activity.Parks]) (fun _ _ _ => accepts)
  | putBack doing accepts | signal doing accepts =>
      exact sending.keepFree taken rfl (by simp [doing, Activity.Parks]) (fun _ _ _ => accepts)
  | park idle full =>
      exact sending.park taken rfl full (by simp [idle, Activity.Parks]) (by simp [Activity.Parks])
  | parkBack doing full | parkSignal doing full =>
      exact sending.park taken rfl full (by simp [doing, Activity.Parks]) (by simp [Activity.Parks])
  | cleared doing | drain doing | reset doing | unwound doing | joined doing | callOff doing
  | gathered doing =>
      exact sending.keepFree taken rfl (by simp [doing, Activity.Parks]) (by simp)
  | advance doing advance =>
      refine sending.keepFree taken rfl ?_ (by simp)
      cases advance <;> simp [doing, Activity.Parks]
  | added doing sent | restored doing sent | sent doing sent =>
      exact sending.keep taken (List.Sublist.refl _) (not_mem_of_isSending sent)
  | withdraw doing | desert doing | breakOff doing =>
      refine sending.keep taken List.filter_sublist ?_
      intro row mem
      simpa [Move.party] using (List.mem_filter.mp mem).2
  | ignore => exact sending
  | take found phase taking =>
      refine sending.keepWorker taken rfl ?_
      rcases taking with rfl | rfl <;> simp
  | look | parkWorker | quit | pickUp | despair | timeOut | countOut | notify | finish | answer =>
      exact sending.keepWorker taken rfl (by simp)

theorem Transition.waits_of_ne (step : Transition pool now move use after reply) {id : Nat}
    (apart : move.party ≠ .agent id) : after.Waits id ↔ pool.Waits id := by
  cases former : pool.workers[id]? with
  | some worker =>
      rw [waits_iff_of_found former, waits_iff_of_found (step.worker_of_ne former apart)]
  | none =>
      constructor
      · rintro ⟨worker, found, parked⟩
        rcases step.worker_new former found with ⟨_, _, _, _, _, _, rfl⟩
        cases parked
      · rintro ⟨worker, found, parked⟩
        rw [former] at found
        cases found

namespace Seated

/-- Handing a message over leaves a worker in its seat. -/
theorem keep (seated : Seated pool) (step : Transition pool now move use after reply)
    (same : (pool.channel.after use).seats.Perm pool.channel.seats)
    (own : ∀ id, move.party = .agent id → ¬pool.Waits id ∧ ¬after.Waits id) : Seated after := by
  rw [← step.channel] at same
  refine ⟨fun party => ?_, same.nodup_iff.mpr seated.distinct⟩
  rw [same.mem_iff, seated.seats]
  refine exists_congr fun id => and_congr_right fun _ => ?_
  by_cases mine : move.party = .agent id
  · exact iff_of_false (own id mine).1 (own id mine).2
  · exact (step.waits_of_ne mine).symm

theorem keepWorker {id : Nat} {worker changed : Worker ι σ} (seated : Seated pool)
    (step : Transition pool now move use after reply) (own : move.party = .agent id)
    (same : (pool.channel.after use).seats.Perm pool.channel.seats)
    (found : pool.workers[id]? = some worker) (put : after.workers[id]? = some changed)
    (stood : worker.phase.isParked = false) (stands : changed.phase.isParked = false) :
    Seated after := by
  refine seated.keep step same ?_
  intro other mine
  rw [own] at mine
  cases mine
  exact ⟨not_waits_of_found found stood, not_waits_of_found put stands⟩

theorem sit {id : Nat} (seated : Seated pool) (step : Transition pool now move use after reply)
    (own : move.party = .agent id)
    (more : (pool.channel.after use).seats.Perm (.agent id :: pool.channel.seats))
    (stood : ¬pool.Waits id) (waits : after.Waits id) : Seated after := by
  rw [← step.channel] at more
  have absent : .agent id ∉ pool.channel.seats := by
    rw [seated.seats]
    rintro ⟨other, same, waits⟩
    cases same
    exact stood waits
  refine ⟨fun party => ?_, more.nodup_iff.mpr (List.nodup_cons.mpr ⟨absent, seated.distinct⟩)⟩
  rw [more.mem_iff, List.mem_cons, seated.seats]
  constructor
  · rintro (rfl | ⟨other, rfl, old⟩)
    · exact ⟨id, rfl, waits⟩
    · refine ⟨other, rfl, (step.waits_of_ne ?_).mpr old⟩
      rw [own]
      rintro same
      cases same
      exact stood old
  · rintro ⟨other, rfl, new⟩
    by_cases same : other = id
    · exact Or.inl (by rw [same])
    · refine Or.inr ⟨other, rfl, (step.waits_of_ne ?_).mp new⟩
      rw [own]
      rintro mine
      cases mine
      exact same rfl

theorem rise {id : Nat} (seated : Seated pool) (step : Transition pool now move use after reply)
    (own : move.party = .agent id)
    (fewer : ∀ party, party ∈ (pool.channel.after use).seats ↔
      party ∈ pool.channel.seats ∧ party ≠ .agent id)
    (distinct : (pool.channel.after use).seats.Nodup) (stands : ¬after.Waits id) :
    Seated after := by
  rw [← step.channel] at fewer distinct
  refine ⟨fun party => ?_, distinct⟩
  rw [fewer, seated.seats]
  constructor
  · rintro ⟨⟨other, rfl, old⟩, apart⟩
    refine ⟨other, rfl, (step.waits_of_ne ?_).mpr old⟩
    rw [own]
    exact apart.symm
  · rintro ⟨other, rfl, new⟩
    have apart : Party.agent other ≠ .agent id := by
      intro same
      cases same
      exact stands new
    refine ⟨⟨other, rfl, (step.waits_of_ne ?_).mp new⟩, apart⟩
    rw [own]
    exact apart.symm

end Seated

/-- Every step keeps the workers in their seats. -/
theorem seated_of_transition (seated : Seated pool)
    (step : Transition pool now move use after reply) : Seated after := by
  have taken := step
  cases step with
  | look found phase =>
      exact seated.keepWorker taken rfl (List.Perm.refl _) found (found_put found _)
        (by rw [phase]; rfl) (isParked_afterLook _ _)
  | countOut found phase | notify found phase | finish found phase =>
      exact seated.keepWorker taken rfl (List.Perm.refl _) found (found_put found _)
        (by rw [phase]; rfl) rfl
  | @answer _ worker memory ending found calls =>
      exact seated.keepWorker taken rfl (List.Perm.refl _) found (found_put found _)
        (isParked_of_calls calls) (isParked_afterCallback { worker with memory } calls ending)
  | take found phase taking some =>
      refine seated.keepWorker taken rfl (Channel.seats_after_keep ?_) found (found_put found _)
        (by rw [phase]; rfl) (isParked_afterTake _ _)
      rcases taking with rfl | rfl
      · simp [some]
      · trivial
  | quit found phase =>
      exact seated.keepWorker taken rfl (Channel.seats_after_keep trivial) found (found_put found _)
        (by rw [phase]; rfl) rfl
  | parkWorker found phase _ _ empty =>
      refine seated.sit taken rfl (Channel.seats_after_park empty) ?_ ?_
      · exact not_waits_of_found found (by rw [phase]; rfl)
      · exact (waits_iff_of_found (found_put found _)).mpr rfl
  | pickUp found phase handed =>
      refine seated.rise taken rfl (fun party => Channel.mem_seats_pickUp seated.distinct handed)
        (Channel.nodup_seats_pickUp seated.distinct) ?_
      exact not_waits_of_found (found_put found _) (isParked_afterTake _ _)
  | despair found phase empty | timeOut found phase empty =>
      refine seated.rise taken rfl (fun party => Channel.mem_seats_leave empty)
        (Channel.nodup_seats_leave seated.distinct) ?_
      exact not_waits_of_found (found_put found _) rfl
  | _ =>
      refine seated.keep taken (Channel.seats_after_keep trivial) ?_
      rintro id ⟨⟩

/-- What is parked at the queue of a pool is in order after every past. -/
theorem parking_of_history {events : List (Event ι σ)} (history : History events pool) :
    Parking pool := by
  refine history.induction (motive := fun _ pool => Parking pool) ?_ ?_
  · intro capacity
    refine ⟨fun parked => absurd rfl parked, ⟨?_, List.nodup_nil⟩, ⟨?_, List.nodup_nil⟩⟩
    · rintro row ⟨⟩
    · intro party
      constructor
      · rintro ⟨⟩
      · rintro ⟨id, _, worker, found, _⟩
        cases found
  · intro events pool now move stepped _ parking performed
    have step := perform_transition performed
    exact ⟨step.channel ▸ Channel.eager_after parking.eager _,
      sending_of_transition parking.sending step, seated_of_transition parking.seated step⟩

end PoolSystem

end Coordination
