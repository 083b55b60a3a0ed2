import Coordination.Proofs.Pool.Conservation

/-!
# What a report accounts for

A shutdown copies the counts of its run, then it judges the workers one after the other, and then it
drains the queue. A worker that has not ended when the counts are copied, but has when its turn comes,
is no straggler, and an item that it has handled meanwhile is in no count (`unaccounted_item`). Such
items are all that a report without stragglers leaves out (`accounted_of_drain`).

Two facts carry the proof. What a thread has judged stays true, since workers that have ended stay so
(`Joined.keep`). And when no worker is live, the items that were removed for workers are the ones that
were handled, worker by worker and so on the whole (`handled_perm`).
-/

namespace Coordination

/-- Whether a party is a worker. -/
def Party.isAgent : Party → Bool
  | .agent _ => true
  | .caller _ => false

namespace PoolSystem

open Channel (share)

variable {ι σ : Type}

/-- The items that callers take out of the queue: a clear, or the drain of a wait. -/
def Event.reclaimed (event : Event ι σ) : List (Party × ι) :=
  event.removed.filter fun row => !row.1.isAgent

/-- The first workers of a run have ended. -/
def Joined (pool : PoolSystem ι σ) (run : RunId) (count : Nat) : Prop :=
  ∀ worker ∈ pool.workers, worker.run = run → worker.index < count → worker.phase.isEnded = true

/-- What a thread that has copied the counts of a run knows until it drains the queue. -/
def Judged (pool : PoolSystem ι σ) (run : RunId) (stats : PoolStats) : Activity ι → Prop
  | .judging shutdown report index =>
      shutdown.run = run ∧ shutdown.finished.length = (pool.run run).config.threads ∧
        report.stats = stats ∧ (report.stragglers = 0 → pool.Joined run index)
  | .draining report _ =>
      report.stats = stats ∧
        (report.stragglers = 0 → pool.Joined run (pool.run run).config.threads)
  | .resetting report => report.stats = stats
  | _ => False

variable {pool after : PoolSystem ι σ} {now : Instant} {move : Move ι σ}
  {use : Channel.Use (Envelope ι)} {reply : Option (Reply ι)}

theorem Joined.succ (crew : Crew pool) {run : RunId} {index : Nat} (joined : pool.Joined run index)
    (ended : pool.hasEnded run index = true) : pool.Joined run (index + 1) := by
  rintro worker mem rfl short
  rcases Nat.lt_succ_iff_lt_or_eq.mp short with before | rfl
  · exact joined worker mem rfl before
  · rcases List.getElem?_of_mem mem with ⟨id, found⟩
    have placed := crew.placed id worker found
    rw [hasEnded, ← placed.place, found] at ended
    exact ended

/-- A thread that judges a worker that has not ended counts a straggler. -/
theorem Advance.judged (crew : Crew pool) {before next : Activity ι} {advanced : PoolSystem ι σ}
    {run : RunId} {stats : PoolStats} (advance : Advance pool now before advanced next)
    (judged : pool.Judged run stats before) : advanced.Judged run stats next := by
  cases advance with
  | join report listed ended =>
      rcases judged with ⟨rfl, length, same, joined⟩
      exact ⟨rfl, length, same, fun none => (joined none).succ crew ended⟩
  | detach report =>
      rcases judged with ⟨own, length, same, joined⟩
      refine ⟨own, length, same, ?_⟩
      rintro ⟨⟩
  | judge report all =>
      rcases judged with ⟨own, length, same, joined⟩
      refine ⟨same, ?_⟩
      intro none worker mem mine short
      refine joined none worker mem mine ?_
      rw [List.getElem?_eq_none_iff] at all
      omega
  | _ => cases judged

theorem perm_of_share {α : Type} {rows others : List (Party × α)}
    (same : ∀ party, share party rows = share party others) : rows.Perm others := by
  classical
  have count (party : Party) (message : α) (rows : List (Party × α)) :
      rows.count (party, message) = (share party rows).count message := by
    induction rows with
    | nil => rfl
    | cons row rest ih =>
        rw [List.count_cons, Channel.share_cons, ih]
        rcases row with ⟨other, content⟩
        by_cases own : other = party <;> simp [own, List.count_cons]
  rw [List.perm_iff_count]
  rintro ⟨party, message⟩
  rw [count, count, same]

variable [Inhabited σ]

section Judging

/-- A worker that has ended makes no more steps. -/
theorem Transition.isEnded (step : Transition pool now move use after reply) {id : Nat}
    {worker : Worker ι σ} (found : pool.workers[id]? = some worker)
    (ended : worker.phase.isEnded = true) : after.workers[id]? = some worker := by
  refine step.worker_of_ne found ?_
  intro own
  have stuck {phase : Worker.Phase ι} (mine : worker.phase = phase) : phase.isEnded = true :=
    mine ▸ ended
  cases step with
  | look there phase | take there phase | parkWorker there phase | quit there phase
  | pickUp there phase | despair there phase | timeOut there phase | countOut there phase
  | notify there phase | finish there phase =>
      cases own
      cases there.symm.trans found
      cases stuck phase
  | answer there calls =>
      cases own
      cases there.symm.trans found
      cases phase : worker.phase <;> rw [phase] at ended calls <;> contradiction
  | _ => cases own

theorem Joined.keep {run : RunId} {count : Nat} (joined : pool.Joined run count)
    (known : run < pool.runs.length) (step : Transition pool now move use after reply) :
    after.Joined run count := by
  rintro changed mem rfl short
  rcases List.getElem?_of_mem mem with ⟨id, put⟩
  cases found : pool.workers[id]? with
  | some worker =>
      rcases step.worker_same found with ⟨other, same, own, place, _⟩
      cases same.symm.trans put
      have ended := joined worker (List.mem_of_getElem? found) own.symm (place ▸ short)
      cases (step.isEnded found ended).symm.trans put
      exact ended
  | none =>
      rcases step.worker_new found put with ⟨_, _, _, _, _, _, rfl⟩
      exact absurd known (Nat.lt_irrefl _)

/-- A thread that stays in its shutdown goes on judging the workers, until it drains the queue. -/
theorem Transition.judged (crew : Crew pool) {run : RunId} {stats : PoolStats} {thread : ThreadId}
    (known : run < pool.runs.length) (step : Transition pool now move use after reply)
    (judged : pool.Judged run stats (pool.activity thread))
    (stays : move.party = .caller thread → reply = none) :
    after.Judged run stats (after.activity thread) := by
  by_cases own : move.party = .caller thread
  · have silent := stays own
    cases step with
    | advance doing advance =>
        cases own
        rw [activity_turnTo, if_pos rfl]
        exact advance.judged crew (doing ▸ judged)
    | drain doing =>
        cases own
        rw [doing] at judged
        rw [activity_turnTo, if_pos rfl]
        exact judged.1
    | fallShort doing | park doing | clear doing | waitIdle _ doing | takeOver _ doing
    | abandonRunning doing | putBack doing | parkBack doing | restored doing | signal doing
    | parkSignal doing | sent doing | withdraw doing | desert doing | breakOff doing | callOff doing =>
        cases own
        rw [doing] at judged
        cases judged
    | look | take | parkWorker | quit | pickUp | despair | timeOut | countOut | notify | finish =>
        cases own
    | _ => cases silent
  · rw [step.activity_of_ne own]
    have settings := (step.settings known).1
    cases doing : pool.activity thread with
    | judging shutdown report index =>
        rw [doing] at judged
        rcases judged with ⟨same, length, stats, joined⟩
        exact ⟨same, by rw [settings, length], stats, fun none => (joined none).keep known step⟩
    | draining report span =>
        rw [doing] at judged
        rcases judged with ⟨stats, joined⟩
        refine ⟨stats, fun none => ?_⟩
        rw [settings]
        exact (joined none).keep known step
    | resetting report =>
        rw [doing] at judged
        exact judged
    | _ =>
        rw [doing] at judged
        cases judged

end Judging

/-- A shutdown has a place for every worker of its run. -/
theorem finished_of_history {events : List (Event ι σ)} (history : History events pool) :
    ∀ thread, ∀ shutdown ∈ (pool.activity thread).shutdown?,
      shutdown.finished.length = (pool.run shutdown.run).config.threads := by
  refine history.induction (motive := fun _ pool => ∀ thread,
    ∀ shutdown ∈ (pool.activity thread).shutdown?,
      shutdown.finished.length = (pool.run shutdown.run).config.threads) ?_ ?_
  · rintro capacity thread shutdown ⟨⟩
  · intro events pool now move stepped history listed performed thread shutdown mem
    have custody := custody_of_history history
    have step := perform_transition performed
    rcases step.begins mem with ⟨former, doing, same, length, _⟩ | ⟨runs, length⟩
    · rw [length, same, (step.settings (custody.begun thread former doing)).1]
      exact listed thread former doing
    · rw [length, (step.settings (custody.known _ runs)).1]

theorem Path.runs_length {events : List (Event ι σ)} (path : Path pool events after) :
    pool.runs.length ≤ after.runs.length := by
  induction path with
  | refl => exact Nat.le_refl _
  | step _ performed ih => exact Nat.le_trans ih (perform_transition performed).runs_length

/-- What a thread knows about the workers at the end of its shutdown. -/
theorem judged_of_path {earlier late : List (Event ι σ)} {copied drained : PoolSystem ι σ}
    {thread : ThreadId} {run : RunId} {stats : PoolStats} (history : History earlier copied)
    (known : run < copied.runs.length) (judges : copied.Judged run stats (copied.activity thread))
    (path : Path copied late drained)
    (stays : ∀ event ∈ late, event.move.party = .caller thread → event.reply = none) :
    drained.Judged run stats (drained.activity thread) := by
  induction path with
  | refl => exact judges
  | @step events middle now move stepped path performed ih =>
      have judged := ih fun event mem => stays event (List.mem_append_left _ mem)
      refine (perform_transition performed).judged (crew_of_history (history.append path)) ?_ judged ?_
      · exact Nat.lt_of_lt_of_le known path.runs_length
      · exact stays _ (List.mem_append_right _ List.mem_cons_self)

section Handling

variable {events : List (Event ι σ)}

omit [Inhabited σ] in
theorem share_agents (party : Party) (rows : List (Party × ι)) :
    share party (rows.filter (·.1.isAgent)) = if party.isAgent then share party rows else [] := by
  simp only [share, List.filterMap_filter]
  cases party with
  | agent id =>
      refine List.filterMap_congr fun row _ => ?_
      by_cases own : row.1 = .agent id <;> simp [own, Party.isAgent]
  | caller thread =>
      simp only [Party.isAgent, List.filterMap_eq_nil_iff, Bool.false_eq_true, if_false]
      intro row _
      by_cases own : row.1 = .caller thread <;> simp [own]

omit [Inhabited σ] in
theorem share_handlings (party : Party) (handlings : List (Handling ι)) :
    share party (handlings.map fun handling => (.agent handling.worker, handling.item))
      = match party with
        | .agent id => (handlings.filter (·.worker = id)).map (·.item)
        | .caller _ => [] := by
  induction handlings with
  | nil => cases party <;> rfl
  | cons handling rest ih =>
      rw [List.map_cons, Channel.share_cons, ih]
      cases party with
      | agent id => by_cases own : handling.worker = id <;> simp [own]
      | caller thread => simp

/-- When no worker is live, what was removed for workers was handled by them. -/
theorem handled_perm (history : History events pool)
    (gone : ∀ worker ∈ pool.workers, worker.phase.isLive = false) :
    ((events.flatMap Event.removed).filter (·.1.isAgent)).Perm
      ((events.flatMap Event.handled).map fun handling => (.agent handling.worker, handling.item)) := by
  refine perm_of_share fun party => ?_
  rw [share_agents, share_handlings]
  cases party with
  | caller thread => rfl
  | agent id =>
      have unhanded : share (.agent id) (loads pool.channel.handed) = [] := by
        rw [Channel.share_eq_nil_iff]
        rintro ⟨party, item⟩ mem rfl
        rcases List.mem_filterMap.mp mem with ⟨row, handed, _⟩
        rcases waits_of_handed history row handed with ⟨other, _, worker, found, parked⟩
        have dead := gone worker (List.mem_of_getElem? found)
        cases phase : worker.phase <;> rw [phase] at dead parked <;> contradiction
      have free : pool.processing? id = none := by
        cases found : pool.workers[id]? with
        | none => rw [processing?, found, Option.bind_none]
        | some worker =>
            have dead := gone worker (List.mem_of_getElem? found)
            rw [processing?_of_found found]
            cases phase : worker.phase <;> rw [phase] at dead <;> first | rfl | cases dead
      have removed := begun_balance history id
      rwa [unhanded, handling_balance history, free, Option.toList_none, List.append_nil,
        List.append_nil] at removed

/-- The calls that have ended belong to runs of the pool. -/
theorem handled_known (history : History events pool) :
    ∀ handling ∈ events.flatMap Event.handled, handling.run < pool.runs.length := by
  refine history.induction (motive := fun events pool =>
    ∀ handling ∈ events.flatMap Event.handled, handling.run < pool.runs.length) ?_ ?_
  · rintro capacity handling ⟨⟩
  · intro events pool now move stepped history known performed handling mem
    have more := (perform_transition performed).runs_length
    rw [List.flatMap_append, List.mem_append] at mem
    rcases mem with before | new
    · exact Nat.lt_of_lt_of_le (known handling before) more
    · refine Nat.lt_of_lt_of_le ?_ more
      cases move with
      | answer id memory ending =>
          simp only [List.flatMap_cons, List.flatMap_nil, List.append_nil, Event.handled] at new
          split at new
          · rename_i worker found
            rcases List.mem_map.mp new with ⟨item, _, rfl⟩
            exact ((crew_of_history history).placed id worker found).known
          · cases new
      | _ => cases new

/-- In the first run of a pool its counts together are the number of the calls that have ended. -/
theorem length_handled (history : History events pool) (first : pool.runs.length ≤ 1) :
    (events.flatMap Event.handled).length
      = (pool.run 0).stats.processed + (pool.run 0).stats.failed := by
  have counts := stats_of_history history 0
  rw [counts.1, counts.2, List.length_eq_countP_add_countP fun handling =>
    decide (handling.ending = .done)]
  have own : ∀ handling ∈ events.flatMap Event.handled, handling.run = 0 := by
    intro handling mem
    exact Nat.lt_one_iff.mp (Nat.lt_of_lt_of_le (handled_known history handling mem) first)
  congr 1
  · refine List.countP_congr fun handling mem => ?_
    simp [own handling mem]
  · refine List.countP_congr fun handling mem => ?_
    simp [own handling mem]

/-- When no worker is live, what was removed was handled, or callers have taken it. -/
theorem length_removed (history : History events pool)
    (gone : ∀ worker ∈ pool.workers, worker.phase.isLive = false) :
    (events.flatMap Event.removed).length = (events.flatMap Event.handled).length
      + (events.flatMap Event.reclaimed).length := by
  have handled := (handled_perm history gone).length_eq
  rw [List.length_map] at handled
  have reclaimed : events.flatMap Event.reclaimed
      = (events.flatMap Event.removed).filter (!·.1.isAgent) := List.filter_flatMap.symm
  rw [List.length_eq_length_filter_add (·.1.isAgent), handled, reclaimed]

end Handling

section Draining

variable {thread : ThreadId} {shutdown : Shutdown} {report : CompletionReport ι} {span : Span}

theorem state_of_copy {stepped : Stepped ι σ} (counts : pool.activity thread = .counting shutdown)
    (copy : pool.perform now (.proceed thread) = some stepped) :
    stepped.state = pool.turnTo thread
      (.judging shutdown
        { stats := (pool.run shutdown.run).stats, interrupted := shutdown.interrupted } 0) := by
  rw [activity] at counts
  simp only [perform, PoolSystem.step, proceed, counts, Option.some.injEq] at copy
  rw [← copy]
  rfl

theorem state_of_drain {stepped : Stepped ι σ} (drains : pool.activity thread = .draining report span)
    (drain : pool.perform now (.proceed thread) = some stepped) :
    stepped.state = (pool.deal (.drain (.caller thread))).turnTo thread
      (.resetting { report with pending := works pool.channel.drain.2 }) := by
  rw [activity] at drains
  simp only [perform, PoolSystem.step, proceed, drains, Option.some.injEq] at drain
  rw [← drain]
  rfl

omit [Inhabited σ] in
theorem items_of_copy (counts : pool.activity thread = .counting shutdown) (now : Instant)
    (next : PoolSystem ι σ) (reply : Option (Reply ι)) :
    Event.accepted (⟨pool, now, .proceed thread, next, reply⟩ : Event ι σ) = [] ∧
      Event.reclaimed (⟨pool, now, .proceed thread, next, reply⟩ : Event ι σ) = [] := by
  simp [Event.accepted, Event.reclaimed, Event.removed, Event.use, PoolSystem.use, useOfProceed, counts,
    Channel.arrivals, Channel.departures]

omit [Inhabited σ] in
theorem reclaimed_of_drain (drains : pool.activity thread = .draining report span)
    (next : PoolSystem ι σ) (reply : Option (Reply ι)) :
    Event.reclaimed (⟨pool, now, .proceed thread, next, reply⟩ : Event ι σ)
      = (works pool.channel.drain.2).map (.caller thread, ·) := by
  have use : Event.use (⟨pool, now, .proceed thread, next, reply⟩ : Event ι σ)
      = .drain (.caller thread) := by
    simp [Event.use, PoolSystem.use, useOfProceed, drains]
  rw [Event.reclaimed, Event.removed, use, Channel.departures, loads_pairs, List.filter_eq_self]
  intro row mem
  rcases List.mem_map.mp mem with ⟨item, _, rfl⟩
  rfl

end Draining

/-- **A report without stragglers leaves out what workers have handled after the counts were copied, and
nothing else.** In the first run of a pool, the items that are counted, those that were handled after
the copy, those that callers took out of the queue before and those that the report returns are as many
as were accepted until the final drain. -/
theorem accounted_of_drain {earlier late : List (Event ι σ)} {drained : PoolSystem ι σ}
    {copied final : Stepped ι σ} {thread : ThreadId} {shutdown : Shutdown} {copyingAt drainingAt : Instant}
    {report : CompletionReport ι} {span : Span}
    (history : History earlier pool) (counts : pool.activity thread = .counting shutdown)
    (copy : pool.perform copyingAt (.proceed thread) = some copied)
    (path : Path copied.state late drained)
    (stays : ∀ event ∈ late, event.move.party = .caller thread → event.reply = none)
    (judged : drained.activity thread = .draining report span)
    (drain : drained.perform drainingAt (.proceed thread) = some final)
    (first : drained.runs.length = 1) (settled : report.stragglers = 0) :
    ∃ pending : List ι, final.state.activity thread = .resetting { report with pending } ∧
      report.stats.processed + report.stats.failed + (late.flatMap Event.handled).length
          + ((earlier ++ late).flatMap Event.reclaimed).length + pending.length
        = ((earlier ++ late).flatMap Event.accepted).length
          + (Event.accepted (⟨drained, drainingAt, .proceed thread, final.state, final.reply⟩ :
              Event ι σ)).length := by
  have copying := history.append (.step .refl copy)
  have before := copying.append path
  have after := before.append (.step .refl drain)
  have made := state_of_copy counts copy
  have ends := state_of_drain judged drain
  -- The thread knows that all workers have ended.
  have known : shutdown.run < copied.state.runs.length := by
    rw [made]
    exact (custody_of_history history).begun thread shutdown (by rw [counts]; rfl)
  have judges : copied.state.Judged shutdown.run (pool.run shutdown.run).stats
      (copied.state.activity thread) := by
    rw [made, activity_turnTo, if_pos rfl]
    refine ⟨rfl, finished_of_history history thread shutdown (by rw [counts]; rfl), rfl, ?_⟩
    exact fun _ worker _ _ short => absurd short (Nat.not_lt_zero _)
  have knows := judged_of_path copying known judges path stays
  rw [judged] at knows
  rcases knows with ⟨same, joined⟩
  have zero : shutdown.run = 0 :=
    Nat.lt_one_iff.mp (Nat.lt_of_lt_of_le known (first ▸ path.runs_length))
  have gone : ∀ worker ∈ final.state.workers, worker.phase.isLive = false := by
    intro worker mem
    replace mem : worker ∈ drained.workers := by
      rw [ends] at mem
      exact mem
    rcases List.getElem?_of_mem mem with ⟨id, found⟩
    have placed := (crew_of_history before).placed id worker found
    have mine : worker.run = shutdown.run := by
      rw [zero]
      exact Nat.lt_one_iff.mp (first ▸ placed.known)
    have ended := joined settled worker mem mine (mine ▸ placed.within)
    cases phase : worker.phase <;> rw [phase] at ended <;> first | rfl | cases ended
  -- The counts are those of the calls that had ended at the copy.
  have counted : (earlier.flatMap Event.handled).length
      = report.stats.processed + report.stats.failed := by
    rw [same, zero]
    refine length_handled history (Nat.le_trans ?_ (first ▸ path.runs_length))
    exact (perform_transition copy).runs_length
  have empty : final.state.channel.queue.toList = [] := by
    rw [ends]
    rfl
  have balance := congrArg List.length (queue_balance after)
  rw [empty, works_nil, List.append_nil, List.length_map, List.length_map,
    length_removed after gone] at balance
  have copies := items_of_copy counts copyingAt copied.state copied.reply
  simp only [List.flatMap_append, List.flatMap_cons, List.flatMap_nil, List.append_nil,
    List.length_append, copies.1, copies.2, reclaimed_of_drain judged, Event.handled, List.length_map,
    List.length_nil] at balance
  refine ⟨works drained.channel.drain.2, ?_, ?_⟩
  · rw [ends, activity_turnTo, if_pos rfl]
  · simp only [List.flatMap_append, List.length_append]
    omega

/-- A run with one item, whose shutdown was interrupted and has not given the worker any time. -/
def untilCopy : List (Instant × Move Nat Unit) :=
  [.begin 0 (.add 1), .begin 0 (.start { PoolConfig.draining 1 with gracePeriod := ⟨0⟩ }),
    .answer 0 () .done, .work 0, .work 0, .begin 1 .interrupt, .begin 0 .wait, .proceed 0, .proceed 0,
    .proceed 0, .proceed 0].map (0, ·)

/-- The worker ends before its turn comes. -/
def untilDrain : List (Instant × Move Nat Unit) :=
  [.answer 0 () .done, .work 0, .answer 0 () .done, .work 0, .work 0, .work 0, .proceed 0,
    .proceed 0].map (0, ·)

theorem accounted_of_untilDrain :
    let earlier := (new none).trace untilCopy
    let pool := (new none).follow untilCopy
    let copied := (pool.perform 0 (.proceed 0)).get (by decide)
    let late := copied.state.trace untilDrain
    let drained := copied.state.follow untilDrain
    let final := (drained.perform 0 (.proceed 0)).get (by decide)
    drained.runs.length = 1 ∧ (late.flatMap Event.handled).length = 1 ∧
      ((earlier ++ late).flatMap Event.accepted).length = 1 ∧
      ∃ pending : List Nat, final.state.activity 0 = .resetting { interrupted := true, pending } ∧
        pending.length = 0 := by
  intro earlier pool copied late drained final
  have path : Path copied.state late drained := by simpa using Path.refl.follow untilDrain
  have first : drained.runs.length = 1 := by decide
  let span : Span := { operation := "pool_shutdown", started := 0, slowThreshold := slowShutdown }
  have counts : pool.activity 0 = .counting
      { run := 0, span, finished := [false], remaining := 1, interrupted := true } := by decide
  have judged : drained.activity 0 = .draining { interrupted := true } span := by decide
  have handled : (late.flatMap Event.handled).length = 1 := by decide
  have accepted : ((earlier ++ late).flatMap Event.accepted).length = 1 := by decide
  have admitted : (Event.accepted (⟨drained, 0, .proceed 0, final.state, final.reply⟩ :
      Event Nat Unit)).length = 0 := by decide
  refine ⟨first, handled, accepted, ?_⟩
  rcases accounted_of_drain (history_follow none untilCopy) counts (Option.some_get _).symm path
    (by decide) judged (Option.some_get _).symm first rfl with ⟨pending, resets, sum⟩
  refine ⟨pending, resets, ?_⟩
  rw [handled, accepted, admitted] at sum
  omega

/-- An item that was handled while the workers were being judged is missing from a report without
stragglers. -/
theorem unaccounted_item :
    let moves := untilCopy ++ (0, .proceed 0) :: untilDrain ++ [(0, .proceed 0), (0, .proceed 0)]
    let events := (new none).trace moves
    let pool := (new none).follow moves
    let report : CompletionReport Nat := { interrupted := true }
    History events pool ∧ pool.runs.length = 1 ∧
      (events.getLast?.bind (·.reply)) = some (.report report) ∧ report.stragglers = 0 ∧
      report.stats.processed + report.stats.failed + report.pending.length
          + (events.flatMap Event.reclaimed).length
        ≠ (events.flatMap Event.accepted).length := by
  intro moves events pool report
  exact ⟨history_follow none moves, by decide, by decide, rfl, by decide⟩

end PoolSystem

end Coordination
