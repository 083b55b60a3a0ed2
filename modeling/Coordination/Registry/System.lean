import Coordination.Registry.Thread

/-!
# The steps of a registry

To get the object of a key, a thread looks its slot up, inserting one if there is none, and locks it.
If the slot has been retired meanwhile, the thread begins again. If the object lives, the thread gets
a reference to it; otherwise it builds a new one, with the lock of the slot in its hands. While it
builds, it may use the registry for other keys.

A purge goes through the shards. It holds the latch of the shard that it is in, never waits for the
lock of a slot there, retires the slots whose objects are dead and unlinks them one by one. Counting
what lives goes through the shards too, as a reader. A reaper is a thread of the registry's own that
purges it once in every interval, until it is stopped or the registry has no owner left.
-/

namespace Coordination.RegistrySystem

variable {κ α : Type} [DecidableEq κ]

def begin (system : RegistrySystem κ α) (party : Party) : Operation κ α → Stepped κ α
  | .get key => { state := system.push party (.lookingUp key) }
  | .built content =>
      match system.activity? party with
      | some (.building key slot) =>
          let (registry, id) := system.registry.publish key slot content
          (system.modify fun _ => registry).finish party (.object id) []
      | _ => system.answer .done
  | .failed =>
      match system.activity? party with
      | some (.building _ slot) =>
          (system.modify (·.modifySlot slot fun slot => { slot with holder := none })).finish party
            .done []
      | _ => system.answer .done
  | .refer object =>
      if 0 < system.registry.references object then
        (system.modify (·.refer object)).answer .done
      else system.answer .done
  | .release object => (system.modify (·.release object)).answer .done
  | .purge => { state := system.push party (.approaching 0 0) }
  | .size => { state := system.push party (.measuring 0 0 .answer) }
  | .liveCount => { state := system.push party (.surveying 0 0) }
  | .own => { system with owners := system.owners + 1 }.answer .done
  | .disown => { system with owners := system.owners - 1 }.answer .done
  | .spawnReaper config refusal =>
      match ThreadName.panic? config.threadName, refusal with
      | some message, _ => system.answer (.panicked message)
      | none, some reason => system.answer (.refused reason)
      | none, none =>
          let reaper : Reaper := { interval := config.reapInterval }
          { system with reapers := system.reapers ++ [reaper] }.answer
            (.reaper system.reapers.length)
  | .isReaperRunning id =>
      system.answer (.flag (system.reapers[id]?.any (·.phase ≠ .ended)))
  | .stopReaper id =>
      { state :=
          (system.modifyReaper id fun reaper => { reaper with stopped := true }).push party
            (.joining id) }

/-- A thread locks the slot of a key. -/
def enter (system : RegistrySystem κ α) (party : Party) (key : κ) (id : SlotId) :
    Option (Stepped κ α) :=
  let slot := system.registry.slots.get id
  if slot.holder.isSome then none
  else if slot.retired then some { state := system.turnTo party (.lookingUp key) }
  else
    match system.registry.live? slot with
    | some object => some ((system.modify (·.refer object)).finish party (.object object) [])
    | none =>
        let locked := system.modify (·.modifySlot id fun slot => { slot with holder := some party })
        some { state := locked.turnTo party (.building key id), reply := some .build }

def sweep (system : RegistrySystem κ α) (party : Party) (shard removed : Nat) :
    List (κ × SlotId) → Stepped κ α
  | [] =>
      { state :=
          (system.modify (·.modifyLatch shard fun _ => .free)).turnTo party
            (.approaching (shard + 1) removed) }
  | (key, id) :: left =>
      if system.registry.countsAsLive id then
        { state := system.turnTo party (.sweeping shard left removed) }
      else
        let retired := system.modify (·.modifySlot id fun slot => { slot with retired := true })
        { state := retired.turnTo party (.unlinking key shard left (removed + 1)) }

/-- The end of a purge, which is logged if it has removed any keys. -/
def endPurge (system : RegistrySystem κ α) (party : Party) (removed : Nat) : Stepped κ α :=
  if removed = 0 then system.finish party (.count 0) []
  else { state := system.turnTo party (.measuring 0 0 (.log removed)) }

/-- The next step of a thread in the middle of an operation, unless it has to wait. -/
def proceed (system : RegistrySystem κ α) (party : Party) : Option (Stepped κ α) :=
  let registry := system.registry
  match system.activity? party with
  | some (.lookingUp key) =>
      if (registry.latchOf key).admitsReader then
        let next := match registry.find key with
          | some slot => .entering key slot
          | none => .inserting key
        some { state := system.turnTo party next }
      else none
  | some (.inserting key) =>
      if (registry.latchOf key).admitsWriter then
        let (registry, slot) := registry.insert key
        some { state := (system.modify fun _ => registry).turnTo party (.entering key slot) }
      else none
  | some (.entering key slot) => system.enter party key slot
  | some (.building _ _) => none
  | some (.approaching shard removed) =>
      if registry.shards ≤ shard then some (system.endPurge party removed)
      else if (registry.latches.get shard).admitsWriter then
        some
          { state :=
              (system.modify (·.modifyLatch shard fun _ => .exclusive party)).turnTo party
                (.sweeping shard (registry.shard shard) removed) }
      else none
  | some (.sweeping shard left removed) => some (system.sweep party shard removed left)
  | some (.unlinking key shard left removed) =>
      some
        { state := (system.modify (·.unlink key)).turnTo party (.sweeping shard left removed) }
  | some (.surveying shard count) =>
      if registry.shards ≤ shard then some (system.finish party (.count count) [])
      else if (registry.latches.get shard).admitsReader then
        some
          { state :=
              (system.modify (·.modifyLatch shard (·.enter party))).turnTo party
                (.counting shard (registry.shard shard) count) }
      else none
  | some (.counting shard [] count) =>
      some
        { state :=
            (system.modify (·.modifyLatch shard (·.leave party))).turnTo party
              (.surveying (shard + 1) count) }
  | some (.counting shard ((_, id) :: left) count) =>
      let count := if registry.countsAsLive id then count + 1 else count
      some { state := system.turnTo party (.counting shard left count) }
  | some (.measuring shard count wanted) =>
      if registry.shards ≤ shard then
        match wanted with
        | .answer => some (system.finish party (.count count) [])
        | .log removed =>
            some (system.finish party (.count removed) [purgedEntry removed count])
      else if (registry.latches.get shard).admitsReader then
        some
          { state :=
              system.turnTo party
                (.measuring (shard + 1) (count + (registry.shard shard).length) wanted) }
      else none
  | some (.joining id) =>
      if system.reapers[id]?.any (·.phase ≠ .ended) then none
      else some (system.finish party .done [])
  | none => none

def endReaper (system : RegistrySystem κ α) (id : Nat) : Stepped κ α :=
  { state := system.modifyReaper id fun reaper => { reaper with phase := .ended },
    log := [stoppedEntry] }

/-- A reaper wakes up, because it has been stopped or its interval is over. -/
def tick (system : RegistrySystem κ α) (now : Instant) (id : Nat) (reaper : Reaper)
    (deadline : Instant) : Option (Stepped κ α) :=
  if reaper.stopped then some (system.endReaper id)
  else if now < deadline then none
  else if system.isOwned then
    let purging := system.modifyReaper id fun reaper => { reaper with phase := .purging }
    some { state := purging.push (.agent id) (.approaching 0 0) }
  else some (system.endReaper id)

/-- A reaper begins to wait for the end of an interval. Some time passes between two purges, however
short the interval is. -/
def rest (system : RegistrySystem κ α) (now : Instant) (id : Nat) : RegistrySystem κ α :=
  system.modifyReaper id fun reaper =>
    { reaper with phase := .waiting (max (reaper.interval.after now) (now + 1)) }

/-- The next step of a reaper, unless it has to wait. -/
def reap (system : RegistrySystem κ α) (now : Instant) (id : Nat) : Option (Stepped κ α) :=
  match system.reapers[id]? with
  | none => none
  | some reaper =>
      match reaper.phase with
      | .starting =>
          some { state := system.rest now id, log := [startedEntry reaper.interval] }
      | .waiting deadline => system.tick now id reaper deadline
      | .purging =>
          (system.proceed (.agent id)).map fun stepped =>
            match stepped.reply with
            | some _ => { stepped with state := stepped.state.rest now id, reply := none }
            | none => stepped
      | .ended => none

def step (system : RegistrySystem κ α) (now : Instant) : Party → Option (Stepped κ α)
  | .caller thread => system.proceed (.caller thread)
  | .agent id => system.reap now id

/-- The instant at which a waiting reaper wakes up by itself. -/
def alarm? (system : RegistrySystem κ α) : Party → Option Instant
  | .caller _ => none
  | .agent id =>
      match system.reapers[id]? with
      | some { phase := .waiting deadline, .. } => some deadline
      | _ => none

end Coordination.RegistrySystem
