import Coordination.Lock.Handle
import Mathlib.Data.List.Nodup
import Mathlib.Tactic.ByContra

/-!
# The handles of a thread

Handles are looked up by their numbers, and each number is given once (`Keyed`). `tally` counts
the handles of some kind; the holds that the handles stand for are two such counts, and the lemmas
on `tally` say how adding, changing and erasing a handle tell on them.

`Coherent` says how the handles of a thread hang together: a child has one parent, which was
upgraded once and has no other child, and the parent is suspended while the child is held. In the
middle of an upgrade, or of the release of a child, one handle is suspended without a child that
is held; it is the one that the thread is turning.
-/

namespace Coordination

namespace Handle

/-- Whether a handle stands for a shared hold on a lock. -/
def sharesOn (lock : LockId) : Handle → Bool
  | .shared place state _ => place = lock && state = .active
  | .exclusive _ _ _ => false

/-- Whether a handle stands for an exclusive hold on a lock. -/
def excludesOn (lock : LockId) : Handle → Bool
  | .shared _ _ _ => false
  | .exclusive place held _ => place = lock && held

theorem of_sharesOn {handle : Handle} {lock : LockId} (holds : handle.sharesOn lock = true) :
    handle.lock = lock ∧ handle.isActive = true := by
  cases handle with
  | shared place state upgraded => simpa [sharesOn, Handle.lock, isActive] using holds
  | exclusive place held parent => cases holds

theorem of_excludesOn {handle : Handle} {lock : LockId} (holds : handle.excludesOn lock = true) :
    handle.lock = lock ∧ handle.isActive = true := by
  cases handle with
  | shared place state upgraded => cases holds
  | exclusive place held parent => simpa [excludesOn, Handle.lock, isActive] using holds

theorem sharesOn_of_inactive {handle : Handle} (inactive : handle.isActive = false)
    (lock : LockId) : handle.sharesOn lock = false := by
  by_contra holds
  simp [(of_sharesOn (by simpa using holds)).2] at inactive

theorem excludesOn_of_inactive {handle : Handle} (inactive : handle.isActive = false)
    (lock : LockId) : handle.excludesOn lock = false := by
  by_contra holds
  simp [(of_excludesOn (by simpa using holds)).2] at inactive

@[simp]
theorem isActive_afterRelease (handle : Handle) : handle.afterRelease.isActive = false := by
  cases handle <;> rfl

@[simp]
theorem parent?_afterRelease (handle : Handle) : handle.afterRelease.parent? = handle.parent? := by
  cases handle <;> rfl

@[simp]
theorem parent?_afterUpgrade (handle : Handle) : handle.afterUpgrade.parent? = handle.parent? := by
  cases handle <;> rfl

end Handle

namespace Handles

variable {handles : Handles} {id key : HandleId} {handle : Handle}

/-- No number is given twice. -/
def Keyed (handles : Handles) : Prop := (handles.rows.map Prod.fst).Nodup

/-- The number of the handles of some kind. -/
def tally (kind : Handle → Bool) (handles : Handles) : Nat :=
  handles.rows.countP fun row => kind row.2

theorem sharedHolds_eq_tally (handles : Handles) (lock : LockId) :
    handles.sharedHolds lock = handles.tally (Handle.sharesOn lock) := by
  simp only [sharedHolds, tally]
  congr 1

theorem exclusiveHolds_eq_tally (handles : Handles) (lock : LockId) :
    handles.exclusiveHolds lock = handles.tally (Handle.excludesOn lock) := by
  simp only [exclusiveHolds, tally]
  congr 1

theorem get?_cons (stored : HandleId) (old : Handle) (rest : List (HandleId × Handle)) :
    get? ⟨(stored, old) :: rest⟩ key = if stored = key then some old else get? ⟨rest⟩ key := by
  by_cases same : stored = key
  · simp [get?, same]
  · have apart : (key == stored) = false := by simpa using Ne.symm same
    simp [get?, List.lookup_cons, same, apart]

theorem mem_of_get? (found : handles.get? id = some handle) : (id, handle) ∈ handles.rows := by
  rcases List.lookup_eq_some_iff.mp found with ⟨before, after, rows, _⟩
  simp [rows]

/-- Where the handle of a number stands among the others. -/
theorem split_of_get? (keyed : handles.Keyed) (found : handles.get? id = some handle) :
    ∃ before after, handles.rows = before ++ (id, handle) :: after ∧
      (∀ row ∈ before, row.1 ≠ id) ∧ ∀ row ∈ after, row.1 ≠ id := by
  rcases List.lookup_eq_some_iff.mp found with ⟨before, after, rows, earlier⟩
  refine ⟨before, after, rows, fun row mem same => ?_, fun row mem same => ?_⟩
  · simpa [same] using earlier row mem
  · rw [Keyed, rows, List.map_append, List.map_cons, List.nodup_append, List.nodup_cons] at keyed
    exact keyed.2.1.1 (List.mem_map.mpr ⟨row, mem, same⟩)

theorem get?_of_mem (keyed : handles.Keyed) (mem : (id, handle) ∈ handles.rows) :
    handles.get? id = some handle := by
  cases found : handles.get? id with
  | none => simpa using List.lookup_eq_none_iff.mp found _ mem
  | some other =>
      have same := List.inj_on_of_nodup_map keyed mem (mem_of_get? found) rfl
      simp only [Prod.mk.injEq, true_and] at same
      rw [same]

theorem ne_of_get? {other : Handle} (found : handles.get? id = some handle)
    (otherFound : handles.get? key = some other) (apart : other ≠ handle) : key ≠ id := by
  rintro rfl
  exact apart (Option.some.inj (otherFound.symm.trans found))

theorem ne_of_absent (absent : handles.get? id = none) (found : handles.get? key = some handle) :
    key ≠ id := by
  rintro rfl
  rw [absent] at found
  cases found

theorem tally_eq_zero {kind : Handle → Bool} (keyed : handles.Keyed)
    (nobody : ∀ id handle, handles.get? id = some handle → kind handle = false) :
    handles.tally kind = 0 := by
  rw [tally, List.countP_eq_zero]
  rintro ⟨id, handle⟩ mem
  simp [nobody id handle (get?_of_mem keyed mem)]

theorem get?_add (absent : handles.get? id = none) :
    (handles.add id handle).get? key = if id = key then some handle else handles.get? key := by
  have last : get? ⟨[(id, handle)]⟩ key = if id = key then some handle else none := get?_cons _ _ []
  simp only [get?, add, List.lookup_append] at absent last ⊢
  rw [last]
  by_cases same : id = key
  · subst same
    simp [absent]
  · simp [same]

theorem get?_modify {change : Handle → Handle} :
    (handles.modify id change).get? key
      = if id = key then (handles.get? key).map change else handles.get? key := by
  rcases handles with ⟨rows⟩
  simp only [modify]
  induction rows with
  | nil => simp [get?]
  | cons row rest ih =>
      rcases row with ⟨stored, old⟩
      by_cases hit : stored = id
      · by_cases same : id = key <;> simp [get?_cons, ih, hit, same]
      · by_cases same : id = key
        · subst same
          simp [get?_cons, ih, hit]
        · simp [get?_cons, ih, hit, same]

/-- A change of the handle of a number tells on no other row. -/
theorem map_rows_of_ne {rows : List (HandleId × Handle)} (change : Handle → Handle)
    (apart : ∀ row ∈ rows, row.1 ≠ id) :
    rows.map (fun row => if row.1 = id then (row.1, change row.2) else row) = rows := by
  conv_rhs => rw [← List.map_id rows]
  exact List.map_congr_left fun row mem => if_neg (apart row mem)

theorem modify_modify (first second : Handle → Handle) :
    (handles.modify id first).modify id second = handles.modify id (second ∘ first) := by
  simp only [modify, List.map_map]
  congr 1
  apply List.map_congr_left
  intro row _
  by_cases hit : row.1 = id <;> simp [hit]

/-- A change that keeps a handle as it is. -/
theorem modify_eq_self (keyed : handles.Keyed) (found : handles.get? id = some handle)
    {change : Handle → Handle} (same : change handle = handle) : handles.modify id change = handles := by
  rcases split_of_get? keyed found with ⟨before, after, rows, earlier, later⟩
  rcases handles with ⟨all⟩
  simp only at rows
  subst rows
  simp only [modify, List.map_append, List.map_cons, map_rows_of_ne change earlier,
    map_rows_of_ne change later, if_true, same]

theorem get?_erase :
    (handles.erase id).get? key = if id = key then none else handles.get? key := by
  rcases handles with ⟨rows⟩
  simp only [erase]
  induction rows with
  | nil => simp [get?]
  | cons row rest ih =>
      rcases row with ⟨stored, old⟩
      by_cases hit : stored = id
      · rw [List.filter_cons_of_neg (by simpa using hit), ih, get?_cons, hit]
        split <;> rfl
      · rw [List.filter_cons_of_pos (by simpa using hit), get?_cons, ih, get?_cons]
        by_cases same : id = key
        · simp [same, show stored ≠ key from same ▸ hit]
        · simp [same]

theorem keyed_add (keyed : handles.Keyed) (absent : handles.get? id = none) :
    (handles.add id handle).Keyed := by
  simp only [Keyed, add, List.map_append, List.map_cons, List.map_nil, List.nodup_append]
  refine ⟨keyed, by simp, ?_⟩
  intro stored storedMem other otherMem same
  rcases List.mem_map.mp storedMem with ⟨row, mem, rfl⟩
  rw [List.mem_singleton.mp otherMem] at same
  have found := get?_of_mem keyed mem
  rw [same, absent] at found
  cases found

theorem keyed_modify {change : Handle → Handle} (keyed : handles.Keyed) :
    (handles.modify id change).Keyed := by
  have same : (handles.modify id change).rows.map Prod.fst = handles.rows.map Prod.fst := by
    simp only [modify, List.map_map]
    apply List.map_congr_left
    intro row _
    by_cases hit : row.1 = id <;> simp [hit]
  rw [Keyed, same]
  exact keyed

theorem keyed_erase (keyed : handles.Keyed) : (handles.erase id).Keyed :=
  keyed.sublist (List.filter_sublist.map _)

theorem tally_add (kind : Handle → Bool) :
    (handles.add id handle).tally kind = handles.tally kind + if kind handle then 1 else 0 := by
  simp [tally, add, List.countP_append, List.countP_cons]

theorem tally_modify (keyed : handles.Keyed) (found : handles.get? id = some handle)
    (kind : Handle → Bool) (change : Handle → Handle) :
    (handles.modify id change).tally kind + (if kind handle then 1 else 0)
      = handles.tally kind + if kind (change handle) then 1 else 0 := by
  rcases split_of_get? keyed found with ⟨before, after, rows, earlier, later⟩
  simp only [tally, modify, rows, List.map_append, List.map_cons, map_rows_of_ne change earlier,
    map_rows_of_ne change later, if_true, List.countP_append, List.countP_cons]
  omega

theorem tally_erase (keyed : handles.Keyed) (found : handles.get? id = some handle)
    (kind : Handle → Bool) :
    (handles.erase id).tally kind + (if kind handle then 1 else 0) = handles.tally kind := by
  rcases split_of_get? keyed found with ⟨before, after, rows, earlier, later⟩
  have kept {rest : List (HandleId × Handle)} (apart : ∀ row ∈ rest, row.1 ≠ id) :
      rest.filter (·.1 ≠ id) = rest :=
    List.filter_eq_self.mpr fun row mem => by simpa using apart row mem
  rw [tally, tally, erase, rows, List.filter_append, List.filter_cons_of_neg (by simp),
    kept earlier, kept later]
  simp only [List.countP_append, List.countP_cons]
  omega

theorem holds_modify (keyed : handles.Keyed) (found : handles.get? id = some handle)
    (change : Handle → Handle) (changed : Handle) (becomes : change handle = changed) (lock : LockId) :
    (handles.modify id change).sharedHolds lock + (if handle.sharesOn lock then 1 else 0)
        = handles.sharedHolds lock + (if changed.sharesOn lock then 1 else 0) ∧
      (handles.modify id change).exclusiveHolds lock + (if handle.excludesOn lock then 1 else 0)
        = handles.exclusiveHolds lock + (if changed.excludesOn lock then 1 else 0) := by
  simp only [sharedHolds_eq_tally, exclusiveHolds_eq_tally, ← becomes]
  exact ⟨tally_modify keyed found _ change, tally_modify keyed found _ change⟩

theorem holds_add (handle : Handle) (lock : LockId) :
    (handles.add id handle).sharedHolds lock
        = handles.sharedHolds lock + (if handle.sharesOn lock then 1 else 0) ∧
      (handles.add id handle).exclusiveHolds lock
        = handles.exclusiveHolds lock + (if handle.excludesOn lock then 1 else 0) := by
  simp only [sharedHolds_eq_tally, exclusiveHolds_eq_tally]
  exact ⟨tally_add _, tally_add _⟩

theorem holds_erase (keyed : handles.Keyed) (found : handles.get? id = some handle)
    (inactive : handle.isActive = false) (lock : LockId) :
    (handles.erase id).sharedHolds lock = handles.sharedHolds lock ∧
      (handles.erase id).exclusiveHolds lock = handles.exclusiveHolds lock := by
  simp only [sharedHolds_eq_tally, exclusiveHolds_eq_tally, ← tally_erase keyed found,
    Handle.sharesOn_of_inactive inactive, Handle.excludesOn_of_inactive inactive]
  simp

theorem get?_modify_eq_some_iff {change : Handle → Handle} {old : Handle}
    (found : handles.get? id = some old) :
    (handles.modify id change).get? key = some handle ↔
      key = id ∧ handle = change old ∨ key ≠ id ∧ handles.get? key = some handle := by
  rw [get?_modify]
  by_cases same : id = key
  · subst same
    simp [found, eq_comm]
  · simp [same, Ne.symm same]

theorem get?_add_eq_some_iff {new : Handle} (absent : handles.get? id = none) :
    (handles.add id new).get? key = some handle ↔
      key = id ∧ handle = new ∨ key ≠ id ∧ handles.get? key = some handle := by
  rw [get?_add absent]
  by_cases same : id = key
  · subst same
    simp [eq_comm]
  · simp [same, Ne.symm same]

theorem get?_erase_eq_some_iff :
    (handles.erase id).get? key = some handle ↔ key ≠ id ∧ handles.get? key = some handle := by
  rw [get?_erase]
  by_cases same : id = key
  · simp [same]
  · simp [same, Ne.symm same]

/-- How the handles of a thread hang together while it is turning one of them: giving up or getting
back a shared hold for the sake of an exclusive one. -/
structure Coherent (handles : Handles) (turning : Option HandleId) : Prop where
  keyed : handles.Keyed
  parented : ∀ {child parent place held},
    handles.get? child = some (.exclusive place held (some parent)) →
      ∃ state, handles.get? parent = some (.shared place state true) ∧
        (held = true → state = .suspended)
  onlyChild : ∀ {first second parent place place' held held'},
    handles.get? first = some (.exclusive place held (some parent)) →
      handles.get? second = some (.exclusive place' held' (some parent)) → first = second
  suspended : ∀ {id place upgraded},
    handles.get? id = some (.shared place .suspended upgraded) →
      turning = some id ∨ ∃ child place, handles.get? child = some (.exclusive place true (some id))
  turned : ∀ {id}, turning = some id →
    ∃ place upgraded, handles.get? id = some (.shared place .suspended upgraded)

def Childless (handles : Handles) (id : HandleId) : Prop :=
  ∀ child handle, handles.get? child = some handle → handle.parent? ≠ some id

theorem childless_of_free (free : handles.isBorrowed id = false) : handles.Childless id := by
  intro child handle found
  have := List.any_eq_false.mp free _ (mem_of_get? found)
  simpa using this

theorem free_of_childless (keyed : handles.Keyed) (childless : handles.Childless id) :
    handles.isBorrowed id = false := by
  rw [isBorrowed, List.any_eq_false]
  intro row mem borrowed
  exact childless row.1 row.2 (get?_of_mem keyed mem) (of_decide_eq_true borrowed)

theorem Childless.modify (childless : handles.Childless id) {change : Handle → Handle}
    (kept : ∀ handle, (change handle).parent? = handle.parent?) :
    (handles.modify key change).Childless id := by
  intro child handle found
  rw [get?_modify] at found
  split at found
  · rcases Option.map_eq_some_iff.mp found with ⟨old, oldFound, rfl⟩
    rw [kept]
    exact childless child old oldFound
  · exact childless child handle found

namespace Coherent

variable {turning turning' : Option HandleId}

theorem empty : Coherent {} none where
  keyed := by simp [Keyed]
  parented found := by simp [get?] at found
  onlyChild found := by simp [get?] at found
  suspended found := by simp [get?] at found
  turned same := by cases same

/-- Only a shared handle that was upgraded has a child. -/
theorem childless (coherent : handles.Coherent turning) (found : handles.get? id = some handle)
    (whole : ∀ place state, handle ≠ .shared place state true) : handles.Childless id := by
  intro child other childFound same
  cases other with
  | shared place state upgraded => cases same
  | exclusive place held parent =>
      cases same
      rcases coherent.parented childFound with ⟨state, parentFound, _⟩
      rw [found] at parentFound
      cases parentFound
      exact whole place state rfl

/-- A shared handle changes its state, or loses its right to an upgrade. It is suspended as long
as it has a child that is held, and only then or while it is turned. -/
theorem modify_shared (coherent : handles.Coherent turning) {place : LockId}
    {state state' : HandleState} {upgraded upgraded' : Bool} {change : Handle → Handle}
    (found : handles.get? id = some (.shared place state upgraded))
    (becomes : change (.shared place state upgraded) = .shared place state' upgraded')
    (children : ∀ {child place' held},
      handles.get? child = some (.exclusive place' held (some id)) →
      upgraded' = true ∧ (held = true → state' = .suspended))
    (reason : state' = .suspended → turning' = some id ∨
      ∃ child place', handles.get? child = some (.exclusive place' true (some id)))
    (elsewhere : ∀ other, other ≠ id → (turning = some other ↔ turning' = some other))
    (here : turning' = some id → state' = .suspended) :
    (handles.modify id change).Coherent turning' where
  keyed := keyed_modify coherent.keyed
  parented := by
    intro child parent childPlace held childFound
    simp only [get?_modify_eq_some_iff found, becomes, reduceCtorEq, and_false, false_or]
      at childFound ⊢
    rcases coherent.parented childFound.2 with ⟨parentState, parentFound, suspended⟩
    by_cases same : parent = id
    · subst same
      rcases children childFound.2 with ⟨rightUsed, suspends⟩
      rw [found] at parentFound
      cases parentFound
      exact ⟨state', Or.inl ⟨rfl, by rw [rightUsed]⟩, suspends⟩
    · exact ⟨parentState, Or.inr ⟨same, parentFound⟩, suspended⟩
  onlyChild firstFound secondFound := by
    simp only [get?_modify_eq_some_iff found, becomes, reduceCtorEq, and_false, false_or]
      at firstFound secondFound
    exact coherent.onlyChild firstFound.2 secondFound.2
  suspended := by
    intro key keyPlace keyUpgraded keyFound
    simp only [get?_modify_eq_some_iff found, becomes, reduceCtorEq, and_false, false_or]
      at keyFound ⊢
    have kept : (∃ child place, handles.get? child = some (.exclusive place true (some key))) →
        ∃ child place, child ≠ id ∧
          handles.get? child = some (.exclusive place true (some key)) := by
      rintro ⟨child, childPlace, childFound⟩
      exact ⟨child, childPlace, ne_of_get? found childFound (by simp), childFound⟩
    rcases keyFound with ⟨rfl, same⟩ | ⟨apart, keyFound⟩
    · cases same
      exact (reason rfl).imp_right kept
    · exact (coherent.suspended keyFound).imp (elsewhere key apart).mp kept
  turned := by
    intro key same
    simp only [get?_modify_eq_some_iff found, becomes]
    by_cases hit : key = id
    · subst hit
      exact ⟨place, upgraded', Or.inl ⟨rfl, by rw [here same]⟩⟩
    · rcases coherent.turned ((elsewhere key hit).mpr same) with ⟨keyPlace, keyUpgraded, keyFound⟩
      exact ⟨keyPlace, keyUpgraded, Or.inr ⟨hit, keyFound⟩⟩

/-- A shared handle without a child gives its hold up. -/
theorem suspend (coherent : handles.Coherent none) {place : LockId} {upgraded : Bool}
    (found : handles.get? id = some (.shared place .active upgraded))
    (childless : handles.Childless id) :
    (handles.modify id (·.withState .suspended)).Coherent (some id) :=
  coherent.modify_shared found rfl (fun childFound => absurd rfl (childless _ _ childFound))
    (fun _ => Or.inl rfl) (fun other apart => by simp [Ne.symm apart]) fun _ => rfl

/-- A shared handle that was suspended and has no child that is held gets its hold back. -/
theorem reactivate (coherent : handles.Coherent (some id)) {place : LockId} {upgraded : Bool}
    (found : handles.get? id = some (.shared place .suspended upgraded))
    (unheld : ∀ child place', handles.get? child ≠ some (.exclusive place' true (some id))) :
    (handles.modify id (·.withState .active)).Coherent none := by
  refine coherent.modify_shared found rfl ?_ (by simp) (fun other apart => by simp [Ne.symm apart])
    (by simp)
  intro child place' held childFound
  rcases coherent.parented childFound with ⟨state, parentFound, _⟩
  rw [found] at parentFound
  cases parentFound
  exact ⟨rfl, fun isHeld => absurd (isHeld ▸ childFound) (unheld child _)⟩

/-- A suspended handle is upgraded; its child is still to be made. -/
theorem markUpgraded (coherent : handles.Coherent (some id)) {place : LockId} {upgraded : Bool}
    (found : handles.get? id = some (.shared place .suspended upgraded)) :
    (handles.modify id Handle.afterUpgrade).Coherent (some id) :=
  coherent.modify_shared found rfl (fun _ => ⟨rfl, fun _ => rfl⟩) (fun _ => Or.inl rfl)
    (fun _ _ => Iff.rfl) fun _ => rfl

/-- An exclusive handle is released. If it is a child, its parent is turned. -/
theorem release_exclusive (coherent : handles.Coherent none) {place : LockId}
    {parent : Option HandleId} (found : handles.get? id = some (.exclusive place true parent)) :
    (handles.modify id Handle.afterRelease).Coherent parent where
  keyed := keyed_modify coherent.keyed
  parented := by
    intro child key childPlace held childFound
    simp only [get?_modify_eq_some_iff found, Handle.afterRelease, reduceCtorEq, and_false,
      false_or] at childFound ⊢
    have apart {state : HandleState}
        (keyFound : handles.get? key = some (.shared childPlace state true)) : key ≠ id :=
      ne_of_get? found keyFound (by simp)
    rcases childFound with ⟨rfl, same⟩ | ⟨_, childFound⟩
    · cases same
      rcases coherent.parented found with ⟨state, keyFound, _⟩
      exact ⟨state, ⟨apart keyFound, keyFound⟩, by simp⟩
    · rcases coherent.parented childFound with ⟨state, keyFound, suspended⟩
      exact ⟨state, ⟨apart keyFound, keyFound⟩, suspended⟩
  onlyChild := by
    have before {child key : HandleId} {childPlace : LockId} {held : Bool}
        (childFound : (handles.modify id Handle.afterRelease).get? child
          = some (.exclusive childPlace held (some key))) :
        ∃ held, handles.get? child = some (.exclusive childPlace held (some key)) := by
      rcases (get?_modify_eq_some_iff found).mp childFound with ⟨rfl, same⟩ | ⟨_, childFound⟩
      · cases same
        exact ⟨true, found⟩
      · exact ⟨held, childFound⟩
    intro first second key place place' held held' firstFound secondFound
    rcases before firstFound with ⟨_, firstFound⟩
    rcases before secondFound with ⟨_, secondFound⟩
    exact coherent.onlyChild firstFound secondFound
  suspended := by
    intro key keyPlace upgraded keyFound
    simp only [get?_modify_eq_some_iff found, Handle.afterRelease, reduceCtorEq, and_false,
      false_or] at keyFound
    rcases coherent.suspended keyFound.2 with impossible | ⟨child, childPlace, childFound⟩
    · cases impossible
    · by_cases same : child = id
      · subst same
        rw [found] at childFound
        cases childFound
        exact Or.inl rfl
      · exact Or.inr ⟨child, childPlace,
          (get?_modify_eq_some_iff found).mpr (Or.inr ⟨same, childFound⟩)⟩
  turned := by
    rintro key rfl
    rcases coherent.parented found with ⟨state, keyFound, suspended⟩
    rw [suspended rfl] at keyFound
    have apart : key ≠ id := ne_of_get? found keyFound (by simp)
    exact ⟨place, true, (get?_modify_eq_some_iff found).mpr (Or.inr ⟨apart, keyFound⟩)⟩

/-- A handle that has its hold and no child is released. If it is a child itself, its parent is
turned. -/
theorem release (coherent : handles.Coherent none) (found : handles.get? id = some handle)
    (active : handle.isActive = true) (childless : handles.Childless id) :
    (handles.modify id Handle.afterRelease).Coherent handle.parent? := by
  cases handle with
  | shared place state upgraded =>
      exact coherent.modify_shared found rfl
        (fun childFound => absurd rfl (childless _ _ childFound)) (by simp) (fun _ _ => Iff.rfl)
        (by simp [Handle.parent?])
  | exclusive place held parent =>
      cases active
      exact coherent.release_exclusive found

/-- A new handle that has its hold. If it is a child, its parent has been turned. -/
theorem add (coherent : handles.Coherent handle.parent?) (absent : handles.get? id = none)
    (active : handle.isActive = true)
    (turned : ∀ parent, handle.parent? = some parent →
      handles.get? parent = some (.shared handle.lock .suspended true) ∧ handles.Childless parent) :
    (handles.add id handle).Coherent none where
  keyed := keyed_add coherent.keyed absent
  parented := by
    intro child parent place held childFound
    simp only [get?_add_eq_some_iff absent] at childFound ⊢
    rcases childFound with ⟨rfl, rfl⟩ | ⟨_, childFound⟩
    · have parentFound := (turned parent rfl).1
      exact ⟨.suspended, Or.inr ⟨ne_of_absent absent parentFound, parentFound⟩, fun _ => rfl⟩
    · rcases coherent.parented childFound with ⟨state, parentFound, suspended⟩
      exact ⟨state, Or.inr ⟨ne_of_absent absent parentFound, parentFound⟩, suspended⟩
  onlyChild := by
    intro first second parent place place' held held' firstFound secondFound
    simp only [get?_add_eq_some_iff absent] at firstFound secondFound
    rcases firstFound with ⟨rfl, new⟩ | ⟨_, firstFound⟩
    · rcases secondFound with ⟨rfl, _⟩ | ⟨_, secondFound⟩
      · rfl
      · exact absurd rfl ((turned parent (by rw [← new]; rfl)).2 _ _ secondFound)
    · rcases secondFound with ⟨rfl, new⟩ | ⟨_, secondFound⟩
      · exact absurd rfl ((turned parent (by rw [← new]; rfl)).2 _ _ firstFound)
      · exact coherent.onlyChild firstFound secondFound
  suspended := by
    intro key place upgraded keyFound
    simp only [get?_add_eq_some_iff absent] at keyFound ⊢
    rcases keyFound with ⟨rfl, new⟩ | ⟨_, keyFound⟩
    · simp [← new, Handle.isActive] at active
    · apply Or.inr
      rcases coherent.suspended keyFound with new | ⟨child, childPlace, childFound⟩
      · cases handle with
        | shared _ _ _ => cases new
        | exclusive newPlace held parent =>
            cases new
            cases active
            exact ⟨id, newPlace, Or.inl ⟨rfl, rfl⟩⟩
      · exact ⟨child, childPlace, Or.inr ⟨ne_of_absent absent childFound, childFound⟩⟩
  turned impossible := by cases impossible

/-- A handle without a hold and without a child is done away with. -/
theorem erase (coherent : handles.Coherent turning)
    (inactive : ∀ handle, handles.get? id = some handle → handle.isActive = false)
    (childless : handles.Childless id) (apart : turning ≠ some id) :
    (handles.erase id).Coherent turning where
  keyed := keyed_erase coherent.keyed
  parented := by
    intro child parent place held childFound
    simp only [get?_erase_eq_some_iff] at childFound ⊢
    rcases coherent.parented childFound.2 with ⟨state, parentFound, suspended⟩
    refine ⟨state, ⟨?_, parentFound⟩, suspended⟩
    rintro rfl
    exact childless _ _ childFound.2 rfl
  onlyChild firstFound secondFound := by
    rw [get?_erase_eq_some_iff] at firstFound secondFound
    exact coherent.onlyChild firstFound.2 secondFound.2
  suspended := by
    intro key place upgraded keyFound
    simp only [get?_erase_eq_some_iff] at keyFound ⊢
    apply (coherent.suspended keyFound.2).imp_right
    rintro ⟨child, childPlace, childFound⟩
    refine ⟨child, childPlace, ?_, childFound⟩
    rintro rfl
    have := inactive _ childFound
    simp [Handle.isActive] at this
  turned := by
    intro key same
    rcases coherent.turned same with ⟨place, upgraded, found⟩
    refine ⟨place, upgraded, get?_erase_eq_some_iff.mpr ⟨?_, found⟩⟩
    rintro rfl
    exact apart same

end Coherent

end Handles

end Coordination
