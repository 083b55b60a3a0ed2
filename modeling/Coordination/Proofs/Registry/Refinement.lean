import Coordination.Proofs.Registry.Locking
import Coordination.Proofs.Registry.Tours
import Mathlib.Data.List.Forall2

/-!
# A registry is a map

What a thread sees that has a registry to itself is what a map would show it that knows its keys, the
references that are held and the keys for which an object is being built (`Ideal`). Such a thread goes
through a script, which may get objects, give references up, purge and count; a factory is a script of
its own, whose result is an object or a panic, so it may use the registry, and panic, in any way.
-/

namespace Coordination

theorem Registry.contents_modifyReferences {κ α : Type} (registry : Registry κ α) (id : ObjectId)
    (change : Nat → Nat) :
    (registry.modifyReferences id change).objects.map (·.content)
      = registry.objects.map (·.content) := by
  refine List.ext_getElem? fun other => ?_
  rw [modifyReferences, List.getElem?_map, List.getElem?_map, List.getElem?_modify]
  cases registry.objects[other]? with
  | none => rfl
  | some object => split <;> rfl

namespace RegistrySystem

variable {κ α β : Type}

/-- A script for a registry, with what it goes on with after every result. The factory of a get is a
script of its own. -/
inductive Script (κ α : Type) : Type → Type 1 where
  | finish {β : Type} (result : β) : Script κ α β
  | get {β : Type} (key : κ) (factory : Script κ α (Ending Empty α))
      (next : Ending Empty ObjectId → Script κ α β) : Script κ α β
  | drop {β : Type} (object : ObjectId) (next : Script κ α β) : Script κ α β
  | purge {β : Type} (next : Nat → Script κ α β) : Script κ α β
  | size {β : Type} (next : Nat → Script κ α β) : Script κ α β
  | liveCount {β : Type} (next : Nat → Script κ α β) : Script κ α β

/-- The number in a reply. -/
def Reply.number : Reply → Nat
  | .count number => number
  | _ => 0

/-- The program of a script. -/
def Script.program : {β : Type} → Script κ α β → Program (Operation κ α) Reply β
  | _, .finish result => .finish result
  | _, .get key factory next =>
      (RegistryClient.get key factory.program).bind fun ending => (next ending).program
  | _, .drop object next => (RegistryClient.operate (.release object)).bind fun _ => next.program
  | _, .purge next => (RegistryClient.operate .purge).bind fun reply => (next reply.number).program
  | _, .size next => (RegistryClient.operate .size).bind fun reply => (next reply.number).program
  | _, .liveCount next =>
      (RegistryClient.operate .liveCount).bind fun reply => (next reply.number).program

/-- A map from keys to objects. An object is live as long as there are references to it. -/
structure Ideal (κ α : Type) where
  known : List κ := []
  /-- The keys for which objects are being built, the last one first. -/
  building : List κ := []
  held : List (Reference κ) := []
  /-- What is in the objects, in the order in which they have been built. -/
  contents : List α := []

namespace Ideal

variable [DecidableEq κ] (ideal : Ideal κ α)

/-- The live object of a key. -/
def live? (key : κ) : Option ObjectId := (ideal.held.find? (·.key = key)).map (·.object)

/-- Whether a key is live or an object is being built for it. -/
def counts (key : κ) : Bool := (ideal.live? key).isSome || decide (key ∈ ideal.building)

def hold (key : κ) (object : ObjectId) : Ideal κ α :=
  { ideal with held := ideal.held ++ [⟨key, object⟩] }

/-- An object begins to be built for a key. -/
def start (key : κ) : Ideal κ α :=
  { ideal with
    known := if key ∈ ideal.known then ideal.known else ideal.known ++ [key]
    building := key :: ideal.building }

/-- An object has been built. -/
def publish (key : κ) (content : α) : Ideal κ α :=
  { ideal with
    building := ideal.building.tail
    held := ideal.held ++ [⟨key, ideal.contents.length⟩]
    contents := ideal.contents ++ [content] }

/-- The building has failed, and the key stays empty. -/
def abandon : Ideal κ α := { ideal with building := ideal.building.tail }

def drop (object : ObjectId) : Ideal κ α :=
  { ideal with held := ideal.held.eraseP (·.object = object) }

def purge : Ideal κ α := { ideal with known := ideal.known.filter ideal.counts }

end Ideal

variable [DecidableEq κ]

/-- What a script leads to in a map, unless it gets an object that it is building, or gives up a
reference that it has not. -/
def Script.reckon : {β : Type} → Script κ α β → Ideal κ α → Option (β × Ideal κ α)
  | _, .finish result, ideal => some (result, ideal)
  | _, .get key factory next, ideal =>
      if key ∈ ideal.building then none
      else
        match ideal.live? key with
        | some id => (next (.value id)).reckon (ideal.hold key id)
        | none =>
            match factory.reckon (ideal.start key) with
            | some (.value content, after) =>
                (next (.value after.contents.length)).reckon (after.publish key content)
            | some (.panicked message, after) => (next (.panicked message)).reckon after.abandon
            | none => none
  | _, .drop object next, ideal =>
      if ideal.held.any (·.object = object) then next.reckon (ideal.drop object) else none
  | _, .purge next, ideal => (next (ideal.known.countP (!ideal.counts ·))).reckon ideal.purge
  | _, .size next, ideal => (next ideal.known.length).reckon ideal
  | _, .liveCount next, ideal => (next (ideal.known.countP ideal.counts)).reckon ideal

/-- A registry that one thread has to itself represents a map. -/
structure Represents (thread : ThreadId) (ideal : Ideal κ α) (held : List (Reference κ))
    (system : RegistrySystem κ α) : Prop where
  reachable : Reachable held system
  sharded : 0 < system.registry.shards
  idle : system.registry.Idle
  alone : ∀ other, Party.caller thread ≠ other → system.stack other = []
  held : held = ideal.held
  known : system.registry.entries.map (·.1) = ideal.known
  contents : system.registry.objects.map (·.content) = ideal.contents
  /-- The thread is in the middle of building objects and of nothing else. -/
  building : List.Forall₂ (fun activity key => ∃ slot, activity = .building key slot)
    (system.stack (.caller thread)) ideal.building

namespace Represents

variable {thread : ThreadId} {ideal : Ideal κ α} {held final : List (Reference κ)}
  {system after : RegistrySystem κ α} {key : κ} {slot : SlotId}

theorem mem_building (represents : Represents thread ideal held system) {activity : Activity κ}
    (mem : activity ∈ system.stack (.caller thread)) :
    ∃ key ∈ ideal.building, ∃ slot, activity = .building key slot := by
  have building := represents.building
  generalize system.stack (.caller thread) = stack at mem building
  generalize ideal.building = keys at building ⊢
  induction building with
  | nil => cases mem
  | @cons first key stack keys named rest ih =>
      rcases List.mem_cons.mp mem with rfl | mem
      · exact ⟨key, List.mem_cons_self, named⟩
      · rcases ih mem with ⟨other, listed, builds⟩
        exact ⟨other, List.mem_cons_of_mem key listed, builds⟩

theorem exists_building (represents : Represents thread ideal held system)
    (mem : key ∈ ideal.building) : ∃ slot, .building key slot ∈ system.stack (.caller thread) := by
  have building := represents.building
  generalize system.stack (.caller thread) = stack at building ⊢
  generalize ideal.building = keys at mem building
  induction building with
  | nil => cases mem
  | @cons first other stack keys named rest ih =>
      rcases List.mem_cons.mp mem with rfl | mem
      · rcases named with ⟨slot, rfl⟩
        exact ⟨slot, List.mem_cons_self⟩
      · rcases ih mem with ⟨slot, listed⟩
        exact ⟨slot, List.mem_cons_of_mem first listed⟩

/-- Nobody does anything but the thread, which builds. -/
theorem building_of_mem (represents : Represents thread ideal held system) {party : Party}
    {activity : Activity κ} (mem : activity ∈ system.stack party) :
    party = .caller thread ∧ ∃ key ∈ ideal.building, ∃ slot, activity = .building key slot := by
  by_cases own : Party.caller thread = party
  · subst own
    exact ⟨rfl, represents.mem_building mem⟩
  · rw [represents.alone party own] at mem
    cases mem

theorem ready (represents : Represents thread ideal held system) :
    (system.stack (.caller thread)).head?.all Activity.isBuilding = true := by
  cases doing : system.stack (.caller thread) with
  | nil => rfl
  | cons activity rest =>
      have mem : activity ∈ system.stack (.caller thread) := by
        rw [doing]
        exact List.mem_cons_self
      rcases represents.mem_building mem with ⟨key, _, slot, rfl⟩
      rfl

theorem mem_known (represents : Represents thread ideal held system) :
    key ∈ ideal.known ↔ ∃ slot, system.registry.find key = some slot := by
  rw [← represents.known]
  constructor
  · intro mem
    rcases List.mem_map.mp mem with ⟨entry, listed, rfl⟩
    have keys := (invariant_of_reachable represents.reachable).sound.sound.keys
    exact ⟨entry.2, Registry.find_of_mem_entries keys listed⟩
  · rintro ⟨slot, found⟩
    exact List.mem_map.mpr ⟨(key, slot), Registry.mem_entries_of_find found, rfl⟩

/-- The slots in the map are not retired. -/
theorem usable (represents : Represents thread ideal held system)
    (found : system.registry.find key = some slot) :
    (system.registry.slots.get slot).retired = false := by
  rw [← Bool.not_eq_true]
  intro retired
  have orderly := orderly_of_reachable represents.reachable
  rcases orderly.leaving (key, slot) (Registry.mem_entries_of_find found) retired with
    ⟨party, shard, left, removed, unlinks⟩
  rcases represents.building_of_mem unlinks with ⟨_, _, _, _, builds⟩
  cases builds

/-- The lock of a slot is held exactly while an object is being built for its key. -/
theorem holder_isSome_iff (represents : Represents thread ideal held system)
    (found : system.registry.find key = some slot) :
    (system.registry.slots.get slot).holder.isSome = true ↔ key ∈ ideal.building := by
  have sound := (invariant_of_reachable represents.reachable).sound
  constructor
  · intro locked
    rcases Option.isSome_iff_exists.mp locked with ⟨party, holds⟩
    rcases locked_of_reachable represents.reachable slot party holds with ⟨other, builds⟩
    rcases represents.building_of_mem builds with ⟨_, name, mem, place, same⟩
    cases same
    have known := (sound.fits party _ builds).1
    rwa [sound.sound.key_eq found known]
  · intro mem
    rcases represents.exists_building mem with ⟨place, builds⟩
    have fits := sound.fits _ _ builds
    obtain rfl := Option.some.inj (found.symm.trans fits.1)
    rw [fits.2.2.1]
    rfl

/-- The live object of a key is the one to which a reference is held. -/
theorem live?_eq (represents : Represents thread ideal held system)
    (found : system.registry.find key = some slot) :
    system.registry.live? (system.registry.slots.get slot) = ideal.live? key := by
  have invariant := invariant_of_reachable represents.reachable
  rw [Ideal.live?, ← represents.held]
  cases first : held.find? (·.key = key) with
  | some row =>
      have mem := List.mem_of_find?_eq_some first
      have named : row.key = key := by simpa using List.find?_some first
      rcases invariant.home mem with ⟨place, known, target, _⟩
      rw [named, found] at known
      obtain rfl := Option.some.inj known
      exact Registry.live?_eq_some_iff.mpr ⟨target, invariant.accounted.alive mem⟩
  | none =>
      cases alive : system.registry.live? (system.registry.slots.get slot) with
      | none => rfl
      | some id =>
          rcases Registry.live?_eq_some_iff.mp alive with ⟨target, lives⟩
          rw [invariant.accounted.counts, List.countP_pos_iff] at lives
          rcases lives with ⟨row, mem, refers⟩
          obtain rfl := of_decide_eq_true refers
          rcases invariant.accounted.labels row mem with ⟨object, listed, label⟩
          have named := invariant.sound.sound.labels key slot row.object object found target listed
          have other := List.find?_eq_none.mp first row mem
          simp [← label, named] at other

/-- A key that is not known has no live object. -/
theorem live?_eq_none (represents : Represents thread ideal held system)
    (absent : system.registry.find key = none) : ideal.live? key = none := by
  rw [Ideal.live?, ← represents.held, Option.map_eq_none_iff, List.find?_eq_none]
  intro row mem named
  rcases (invariant_of_reachable represents.reachable).home mem with ⟨slot, found, _⟩
  rw [of_decide_eq_true named, absent] at found
  cases found

theorem countsAsLive_eq (represents : Represents thread ideal held system) {entry : κ × SlotId}
    (mem : entry ∈ system.registry.entries) :
    system.registry.countsAsLive entry.2 = ideal.counts entry.1 := by
  have keys := (invariant_of_reachable represents.reachable).sound.sound.keys
  have found := Registry.find_of_mem_entries keys mem
  rw [Registry.countsAsLive, represents.live?_eq found, Ideal.counts, Bool.or_comm]
  congr 1
  rw [Bool.eq_iff_iff, decide_eq_true_iff]
  exact represents.holder_isSome_iff found

section Calls

variable {move : Move κ α} {operation : Operation κ α} {reply : Reply} {ideal' : Ideal κ α}

/-- What a call leads to represents a map again. Whoever has been idle is so still. -/
theorem follow (represents : Represents thread ideal held system)
    (answers : Answers thread held system move reply final after) (mine : move.party = .caller thread)
    (shards : after.registry.shards = system.registry.shards) (idle : after.registry.Idle)
    (refers : final = ideal'.held) (known : after.registry.entries.map (·.1) = ideal'.known)
    (contents : after.registry.objects.map (·.content) = ideal'.contents)
    (building : List.Forall₂ (fun activity key => ∃ slot, activity = .building key slot)
      (after.stack (.caller thread)) ideal'.building) : Represents thread ideal' final after where
  reachable := answers.reachable represents.reachable
  sharded := shards ▸ represents.sharded
  idle := idle
  alone other apart :=
    (answers.stack_of_ne represents.reachable mine apart).trans (represents.alone other apart)
  held := refers
  known := known
  contents := contents
  building := building

theorem begin_performs (represents : Represents thread ideal held system) (operation : Operation κ α)
    {activity : Activity κ}
    (begins : system.begin (.caller thread) operation
      = { state := system.push (.caller thread) activity })
    (able : system.canBegin held thread operation
      = (system.stack (.caller thread)).head?.all Activity.isBuilding)
    (records : system.record held none (.begin thread operation) = held)
    (more : Answers thread held
      (system.busy (.caller thread) system.registry (activity :: system.stack (.caller thread)))
      (.proceed thread) reply final after) :
    Answers thread held system (.begin thread operation) reply final after := by
  have performed : system.perform held 0 (.begin thread operation)
      = some { state := system.push (.caller thread) activity } := by
    rw [perform, able, if_pos represents.ready, begins]
  refine .goesOn performed rfl ?_
  rw [records]
  exact more

theorem size (represents : Represents thread ideal held system) :
    ∃ after, Answers thread held system (.begin thread .size) (.count ideal.known.length) held after ∧
      Represents thread ideal held after := by
  have measured := answers_measuring system thread (system.stack (.caller thread)) held represents.idle
    represents.sharded
  have answers := represents.begin_performs .size rfl rfl (List.append_nil held) measured
  have size : system.registry.size = ideal.known.length := by
    rw [← represents.known, List.length_map, Registry.size]
  rw [size] at answers
  refine ⟨_, answers, represents.follow answers rfl rfl represents.idle represents.held
    represents.known represents.contents ?_⟩
  rw [stack_busy]
  exact represents.building

theorem liveCount (represents : Represents thread ideal held system) :
    ∃ after, Answers thread held system (.begin thread .liveCount)
        (.count (ideal.known.countP ideal.counts)) held after ∧
      Represents thread ideal held after := by
  rcases exists_answers_surveying system thread (system.stack (.caller thread)) held represents.idle
    represents.sharded 0 (Nat.zero_le _) with
    ⟨next, ⟨latches, rfl⟩, idle, surveyed⟩
  have answers := represents.begin_performs .liveCount rfl rfl (List.append_nil held)
    surveyed
  have count : (0 + system.registry.entries.countP fun entry =>
      decide (0 ≤ system.registry.place entry) && system.registry.countsAsLive entry.2)
        = ideal.known.countP ideal.counts := by
    rw [← represents.known, List.countP_map, Nat.zero_add]
    refine List.countP_congr fun entry mem => ?_
    simp [represents.countsAsLive_eq mem]
  rw [count] at answers
  refine ⟨_, answers, represents.follow answers rfl rfl idle represents.held
    represents.known represents.contents ?_⟩
  rw [stack_busy]
  exact represents.building

theorem purge (represents : Represents thread ideal held system) :
    ∃ after, Answers thread held system (.begin thread .purge)
        (.count (ideal.known.countP (!ideal.counts ·))) held after ∧
      Represents thread ideal.purge held after := by
  have keys := (invariant_of_reachable represents.reachable).sound.sound.keys
  have whole : Thinned system.registry system.registry
      (fun entry => decide (0 ≤ system.registry.place entry)) 0 := by
    refine ⟨?_, Nat.zero_add _, rfl, rfl, rfl, fun _ => rfl⟩
    simp
  rcases exists_answers_approaching system thread (system.stack (.caller thread)) held keys
    represents.sharded represents.idle (Nat.zero_le _)
    whole with ⟨next, removed, idle, thinned, purged⟩
  have answers := represents.begin_performs .purge rfl rfl (List.append_nil held) purged
  have known : next.entries.map (·.1) = ideal.purge.known := by
    rw [thinned.entries, Ideal.purge, ← represents.known, List.filter_map]
    refine congrArg _ (List.filter_congr fun entry mem => ?_)
    simp [represents.countsAsLive_eq mem]
  have count : removed = ideal.known.countP (!ideal.counts ·) := by
    have all := ideal.known.length_eq_countP_add_countP ideal.counts
    have kept := congrArg List.length known
    have whole := congrArg List.length represents.known
    have counted := thinned.counted
    rw [Ideal.purge, List.length_map, ← List.countP_eq_length_filter] at kept
    rw [List.length_map] at whole
    simp only [Bool.not_eq_true, Bool.decide_eq_false] at all
    omega
  rw [count] at answers
  refine ⟨_, answers, represents.follow answers rfl thinned.shards idle represents.held known ?_ ?_⟩
  · rw [registry_busy, thinned.objects]
    exact represents.contents
  · rw [stack_busy]
    exact represents.building

/-- A get that finds the key, and nobody at work on it. -/
theorem get_performs (represents : Represents thread ideal held system)
    (found : system.registry.find key = some slot)
    (more : Answers thread held
      (system.busy (.caller thread) system.registry (.entering key slot :: system.stack (.caller thread)))
      (.proceed thread) reply final after) :
    Answers thread held system (.begin thread (.get key)) reply final after :=
  represents.begin_performs _ rfl rfl (List.append_nil held)
    (.go (.find (represents.idle.admitsReader _) found) rfl more)

/-- A get of a live object. -/
theorem get_of_live (represents : Represents thread ideal held system) {id : ObjectId}
    (free : key ∉ ideal.building) (alive : ideal.live? key = some id) :
    ∃ final after, Answers thread held system (.begin thread (.get key)) (.object id) final after ∧
      Represents thread (ideal.hold key id) final after := by
  cases found : system.registry.find key with
  | none =>
      rw [represents.live?_eq_none found] at alive
      cases alive
  | some slot =>
      have unlocked : (system.registry.slots.get slot).holder = none := by
        rw [← Option.not_isSome_iff_eq_none, represents.holder_isSome_iff found]
        exact free
      have enters : Advance (system.busy (.caller thread) system.registry
          (.entering key slot :: system.stack (.caller thread))) (.caller thread) (.entering key slot) _ :=
        .join unlocked (represents.usable found) ((represents.live?_eq found).trans alive)
      rw [modify_busy, finish_busy] at enters
      have gains : ((system.busy (.caller thread) system.registry
          (.entering key slot :: system.stack (.caller thread))).gained (.caller thread)
            (some (.object id))).toList = [⟨key, id⟩] := by
        simp [gained, Activity.key?]
      have answers := represents.get_performs found (.done enters gains)
      refine ⟨_, _, answers, represents.follow answers rfl rfl represents.idle ?_ represents.known
        ?_ ?_⟩
      · rw [represents.held, Ideal.hold]
      · exact (system.registry.contents_modifyReferences id _).trans represents.contents
      · rw [stack_busy]
        exact represents.building

/-- The way from a get to the building, once the slot of the key is in the map. -/
theorem enter_of_dead {registry : Registry κ α} {rest : List (Activity κ)}
    (unlocked : (registry.slots.get slot).holder = none)
    (usable : (registry.slots.get slot).retired = false)
    (dead : registry.live? (registry.slots.get slot) = none) :
    Answers thread held (system.busy (.caller thread) registry (.entering key slot :: rest))
      (.proceed thread) .build held
      (system.busy (.caller thread)
        (registry.modifySlot slot fun slot => { slot with holder := some (.caller thread) })
        (.building key slot :: rest)) := by
  have builds : Advance (system.busy (.caller thread) registry (.entering key slot :: rest))
      (.caller thread) (.entering key slot) _ := .lock unlocked usable dead
  rw [modify_busy, turnTo_busy] at builds
  have done : Answers thread held _ (.proceed thread) .build (held ++ []) _ := .done builds rfl
  rwa [List.append_nil] at done

/-- A get that has to build. -/
theorem get_of_dead (represents : Represents thread ideal held system)
    (free : key ∉ ideal.building) (dead : ideal.live? key = none) :
    ∃ after, Answers thread held system (.begin thread (.get key)) .build held after ∧
      Represents thread (ideal.start key) held after := by
  have builds (slot : SlotId) : List.Forall₂ (fun activity key => ∃ slot, activity = .building key slot)
      (.building key slot :: system.stack (.caller thread)) (ideal.start key).building :=
    .cons ⟨slot, rfl⟩ represents.building
  cases found : system.registry.find key with
  | some slot =>
      have unlocked : (system.registry.slots.get slot).holder = none := by
        rw [← Option.not_isSome_iff_eq_none, represents.holder_isSome_iff found]
        exact free
      have listed : key ∈ ideal.known := represents.mem_known.mpr ⟨slot, found⟩
      have answers := represents.get_performs found (enter_of_dead unlocked (represents.usable found)
        ((represents.live?_eq found).trans dead))
      refine ⟨_, answers, represents.follow answers rfl rfl represents.idle represents.held ?_
        represents.contents ?_⟩
      · rw [Ideal.start, if_pos listed]
        exact represents.known
      · rw [stack_busy]
        exact builds slot
  | none =>
      have absent : key ∉ ideal.known := by
        rw [represents.mem_known, found]
        simp
      have inserted := Registry.insert_of_find_eq_none found
      have slot : (system.registry.insert key).1.slots.get (system.registry.insert key).2 = {} := by
        rw [inserted]
        exact Table.get_set_same _ _ _
      have enters : Answers thread held (system.busy (.caller thread) (system.registry.insert key).1
          (.entering key (system.registry.insert key).2 :: system.stack (.caller thread)))
          (.proceed thread) .build held _ :=
        enter_of_dead (by rw [slot]) (by rw [slot]) (by rw [slot]; rfl)
      have answers := represents.begin_performs (.get key) rfl rfl (List.append_nil held)
        (.go (.miss (represents.idle.admitsReader _) found) rfl
          (.go (.insert (represents.idle.admitsWriter _)) rfl enters))
      refine ⟨_, answers, represents.follow answers rfl ?_ ?_ represents.held ?_ ?_ ?_⟩
      · rw [inserted]
        rfl
      · rw [inserted]
        exact represents.idle
      · rw [inserted, Ideal.start, if_neg absent, ← represents.known]
        exact List.map_append
      · rw [inserted]
        exact represents.contents
      · rw [stack_busy]
        exact builds _

/-- A thread that is asked to build an object has the building for the last key in its hands. -/
theorem stack_of_building (represents : Represents thread ideal held system) {rest : List κ}
    (builds : ideal.building = key :: rest) :
    ∃ slot frames, system.stack (.caller thread) = .building key slot :: frames ∧
      List.Forall₂ (fun activity key => ∃ slot, activity = .building key slot) frames rest := by
  have building := represents.building
  rw [builds] at building
  generalize system.stack (.caller thread) = stack at building
  cases building with
  | cons named others =>
      rcases named with ⟨slot, rfl⟩
      exact ⟨slot, _, rfl, others⟩

theorem built (represents : Represents thread ideal held system) {rest : List κ}
    (builds : ideal.building = key :: rest) (content : α) :
    ∃ final after, Answers thread held system (.begin thread (.built content))
        (.object ideal.contents.length) final after ∧
      Represents thread (ideal.publish key content) final after := by
  rcases represents.stack_of_building builds with ⟨slot, frames, doing, others⟩
  have active : system.activity? (.caller thread) = some (.building key slot) :=
    congrArg List.head? doing
  have number : system.registry.objects.length = ideal.contents.length := by
    rw [← represents.contents, List.length_map]
  have performed : system.perform held 0 (.begin thread (.built content))
      = some (((system.modify fun _ => (system.registry.publish key slot content).1).finish
          (.caller thread) (.object system.registry.objects.length) [])) := by
    rw [perform, canBegin, doing, List.head?_cons, Option.any_some, Activity.isBuilding, if_pos rfl]
    simp only [begin, active]
    rfl
  have answers : Answers thread held system _ _ _ _ := .replies performed rfl
  have gains : (system.gained (.caller thread) (some (.object system.registry.objects.length))).toList
      = [⟨key, system.registry.objects.length⟩] := by
    simp [gained, doing, Activity.key?]
  rw [← number]
  refine ⟨_, _, answers, represents.follow answers rfl rfl represents.idle ?_ represents.known ?_ ?_⟩
  · rw [Ideal.publish, ← number, ← represents.held, ← gains]
    rfl
  · rw [Ideal.publish, ← represents.contents]
    exact List.map_append
  · rw [stack_finish, if_pos rfl, Ideal.publish, builds]
    have frame : (system.modify fun _ => (system.registry.publish key slot content).1).stack
        (.caller thread) = system.stack (.caller thread) := rfl
    rw [frame, doing]
    exact others

theorem failed (represents : Represents thread ideal held system) {rest : List κ}
    (builds : ideal.building = key :: rest) :
    ∃ after, Answers thread held system (.begin thread .failed) .done held after ∧
      Represents thread ideal.abandon held after := by
  rcases represents.stack_of_building builds with ⟨slot, frames, doing, others⟩
  have active : system.activity? (.caller thread) = some (.building key slot) :=
    congrArg List.head? doing
  have performed : system.perform held 0 (.begin thread .failed)
      = some ((system.modify (·.modifySlot slot fun slot => { slot with holder := none })).finish
          (.caller thread) .done []) := by
    rw [perform, canBegin, doing, List.head?_cons, Option.any_some, Activity.isBuilding, if_pos rfl]
    simp only [begin, active]
  have answers : Answers thread held system (.begin thread .failed) .done (held ++ []) _ :=
    .replies performed rfl
  rw [List.append_nil] at answers
  refine ⟨_, answers, represents.follow answers rfl rfl represents.idle represents.held
    represents.known represents.contents ?_⟩
  rw [stack_finish, if_pos rfl, Ideal.abandon, builds]
  have frame : (system.modify (·.modifySlot slot fun slot => { slot with holder := none })).stack
      (.caller thread) = system.stack (.caller thread) := rfl
  rw [frame, doing]
  exact others

theorem drop (represents : Represents thread ideal held system) {object : ObjectId}
    (listed : ideal.held.any (·.object = object) = true) :
    ∃ final after, Answers thread held system (.begin thread (.release object)) .done final after ∧
      Represents thread (ideal.drop object) final after := by
  have performed : system.perform held 0 (.begin thread (.release object))
      = some ((system.modify (·.release object)).answer .done) := by
    rw [perform, canBegin, represents.ready, represents.held, listed, Bool.and_true, if_pos rfl]
    rfl
  have answers : Answers thread held system _ _ _ _ := .replies performed rfl
  refine ⟨_, _, answers, represents.follow answers rfl rfl represents.idle ?_ represents.known ?_
    represents.building⟩
  · rw [represents.held]
    rfl
  · exact (system.registry.contents_modifyReferences object _).trans represents.contents

end Calls

end Represents

section Scripts

variable {thread : ThreadId} {ideal ideal' : Ideal κ α} {held : List (Reference κ)}
  {system : RegistrySystem κ α}

/-- A script leaves the keys alone for which objects are being built around it. -/
theorem Script.building_of_reckon {script : Script κ α β} {result : β}
    (reckoned : script.reckon ideal = some (result, ideal')) : ideal'.building = ideal.building := by
  induction script generalizing ideal ideal' with
  | finish =>
      cases reckoned
      rfl
  | get key factory next inner ih =>
      simp only [reckon] at reckoned
      split at reckoned
      · cases reckoned
      · split at reckoned
        · exact (ih _ reckoned).trans rfl
        · split at reckoned
          · rename_i built
            rw [ih _ reckoned, Ideal.publish, inner built]
            rfl
          · rename_i panicked
            rw [ih _ reckoned, Ideal.abandon, inner panicked]
            rfl
          · cases reckoned
  | drop object next ih =>
      simp only [reckon] at reckoned
      split at reckoned
      · exact (ih reckoned).trans rfl
      · cases reckoned
  | purge next ih => exact (ih _ reckoned).trans rfl
  | size next ih => exact ih _ reckoned
  | liveCount next ih => exact ih _ reckoned

theorem evaluates_operate {operation : Operation κ α} {reply : Reply} {final : List (Reference κ)}
    {after : RegistrySystem κ α}
    (answers : Answers thread held system (.begin thread operation) reply final after) :
    Evaluates thread held system (RegistryClient.operate operation) reply final after :=
  .ask answers (.finish reply)

/-- A script comes to what it comes to in the map that the registry represents. -/
theorem evaluates_of_reckon {script : Script κ α β} {result : β}
    (reckoned : script.reckon ideal = some (result, ideal'))
    (represents : Represents thread ideal held system) :
    ∃ final after, Evaluates thread held system script.program result final after ∧
      Represents thread ideal' final after := by
  induction script generalizing ideal ideal' held system with
  | finish value =>
      cases reckoned
      exact ⟨held, system, .finish value, represents⟩
  | get key factory next inner ih =>
      simp only [Script.reckon] at reckoned
      split at reckoned
      · cases reckoned
      · rename_i free
        split at reckoned
        · rename_i id alive
          rcases represents.get_of_live free alive with ⟨between, middle, answers, represents⟩
          rcases ih _ reckoned represents with ⟨final, after, evaluates, represents⟩
          refine ⟨final, after, .bind ?_ evaluates, represents⟩
          exact (evaluates_operate answers).bind (.finish _)
        · rename_i dead
          rcases represents.get_of_dead free dead with ⟨middle, answers, represents⟩
          split at reckoned
          · rename_i content mid made
            rcases inner made represents with ⟨between, middle', built, represents⟩
            have builds : mid.building = key :: ideal.building := Script.building_of_reckon made
            rcases represents.built builds content with ⟨between', middle'', replies, represents⟩
            rcases ih _ reckoned represents with ⟨final, after, evaluates, represents⟩
            refine ⟨final, after, .bind ?_ evaluates, represents⟩
            refine (evaluates_operate answers).bind (built.bind ?_)
            exact (evaluates_operate replies).bind (.finish _)
          · rename_i message mid made
            rcases inner made represents with ⟨between, middle', panicked, represents⟩
            have builds : mid.building = key :: ideal.building := Script.building_of_reckon made
            rcases represents.failed builds with ⟨middle'', replies, represents⟩
            rcases ih _ reckoned represents with ⟨final, after, evaluates, represents⟩
            refine ⟨final, after, .bind ?_ evaluates, represents⟩
            refine (evaluates_operate answers).bind (panicked.bind ?_)
            exact (evaluates_operate replies).bind (.finish _)
          · cases reckoned
  | drop object next ih =>
      simp only [Script.reckon] at reckoned
      split at reckoned
      · rename_i listed
        rcases represents.drop listed with ⟨between, middle, answers, represents⟩
        rcases ih reckoned represents with ⟨final, after, evaluates, represents⟩
        exact ⟨final, after, (evaluates_operate answers).bind evaluates, represents⟩
      · cases reckoned
  | purge next ih =>
      rcases represents.purge with ⟨middle, answers, represents⟩
      rcases ih _ reckoned represents with ⟨final, after, evaluates, represents⟩
      exact ⟨final, after, (evaluates_operate answers).bind evaluates, represents⟩
  | size next ih =>
      rcases represents.size with ⟨middle, answers, represents⟩
      rcases ih _ reckoned represents with ⟨final, after, evaluates, represents⟩
      exact ⟨final, after, (evaluates_operate answers).bind evaluates, represents⟩
  | liveCount next ih =>
      rcases represents.liveCount with ⟨middle, answers, represents⟩
      rcases ih _ reckoned represents with ⟨final, after, evaluates, represents⟩
      exact ⟨final, after, (evaluates_operate answers).bind evaluates, represents⟩

/-- A new registry has no keys. -/
theorem represents_new (thread : ThreadId) (shards : Nat) (shardOf : κ → Nat) :
    Represents thread ({} : Ideal κ α) [] (new (shards + 1) shardOf) where
  reachable := .new (shards + 1) shardOf
  sharded := Nat.succ_pos shards
  idle _ := rfl
  alone _ _ := rfl
  held := rfl
  known := rfl
  contents := rfl
  building := .nil

/-- **A registry is a map** for a thread that has it to itself: every script has one result, and it is the
one that it has in the map. A script may well end with all that it has been answered. -/
theorem refines_map (thread : ThreadId) (shards : Nat) (shardOf : κ → Nat) {script : Script κ α β}
    {result : β} (reckoned : script.reckon {} = some (result, ideal)) :
    ∃ held system, Represents thread ideal held system ∧ ∀ other final after,
      Evaluates thread [] (new (shards + 1) shardOf) script.program other final after ↔
        other = result ∧ final = held ∧ after = system := by
  rcases evaluates_of_reckon reckoned (represents_new thread shards shardOf) with
    ⟨held, system, evaluates, represents⟩
  refine ⟨held, system, represents, fun other final after => ⟨evaluates.unique, ?_⟩⟩
  rintro ⟨rfl, rfl, rfl⟩
  exact evaluates

/-- A factory gets another key, whose factory panics, and purges and counts before it makes its object.
Later on the objects are dropped, and one of them is built again at the second attempt. -/
def errands : Script Nat String (List (Ending Empty ObjectId) × List Nat) :=
  .get 1 (.get 2 (.finish (.panicked "no memory")) fun _ => .purge fun removed =>
    .liveCount fun live => .finish (.value (removed.repr ++ live.repr))) fun _ =>
  .get 1 (.finish (.panicked "in vain")) fun first =>
  .get 2 (.finish (.value "two")) fun second => .drop 1 <|
  .liveCount fun live => .purge fun removed => .size fun size => .drop 0 <| .drop 0 <|
  .get 1 (.finish (.panicked "no memory")) fun failed => .liveCount fun none =>
  .get 1 (.finish (.value "one")) fun third =>
  .finish ([first, second, failed, third], [live, removed, size, none])

theorem refines_map_of_errands :
    let result := ([.value 0, .value 1, .panicked "no memory", .value 2], [1, 1, 1, 0])
    let ideal : Ideal Nat String :=
      { known := [1], held := [⟨1, 2⟩], contents := ["11", "two", "one"] }
    ∃ held system, Represents 0 ideal held system ∧ ∀ other final after,
      Evaluates 0 [] (new 4 fun key => key) errands.program other final after ↔
        other = result ∧ final = held ∧ after = system := by
  intro result ideal
  have reckoned : errands.reckon {} = some (result, ideal) := by rfl
  exact refines_map 0 3 (fun key => key) reckoned

end Scripts

end RegistrySystem

end Coordination
