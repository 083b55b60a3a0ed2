/-!
# Finite tables with a default value

A table gives every key a value: the one last stored under it, or the type's default value. Looking
up is therefore total, and `get_set` says all there is to know about a look-up after a store.
-/

namespace Coordination

/-- A map from keys to values that is the default value outside a finite set of keys. -/
structure Table (κ : Type) (α : Type) where
  rows : List (κ × α) := []

namespace Table

variable {κ α : Type} [DecidableEq κ] [Inhabited α]

/-- The table that gives every key the default value. -/
def empty : Table κ α := ⟨[]⟩

instance : Inhabited (Table κ α) := ⟨empty⟩

/-- The value of a key in a list of rows, of which the first one for the key counts. -/
def find : List (κ × α) → κ → α
  | [], _ => default
  | (stored, value) :: rest, key => if stored = key then value else find rest key

/-- Replaces the first row of the key, or adds one at the end. -/
def store : List (κ × α) → κ → α → List (κ × α)
  | [], key, value => [(key, value)]
  | (stored, old) :: rest, key, value =>
      if stored = key then (key, value) :: rest else (stored, old) :: store rest key value

def get (table : Table κ α) (key : κ) : α := find table.rows key

/-- Gives a key a value and leaves every other key alone. -/
def set (table : Table κ α) (key : κ) (value : α) : Table κ α := ⟨store table.rows key value⟩

def modify (table : Table κ α) (key : κ) (change : α → α) : Table κ α :=
  table.set key (change (table.get key))

@[simp]
theorem get_empty (key : κ) : (empty : Table κ α).get key = default := rfl

theorem find_store (rows : List (κ × α)) (stored key : κ) (value : α) :
    find (store rows stored value) key = if stored = key then value else find rows key := by
  induction rows with
  | nil => simp [store, find]
  | cons row rest ih =>
    rcases row with ⟨name, old⟩
    by_cases same : name = stored
    · subst same
      simp only [store, find, if_true]
      split <;> rfl
    · simp only [store, find, same, if_false, ih]
      by_cases hit : name = key
      · subst hit
        simp [Ne.symm same]
      · simp [hit]

/-- A look-up after a store gives the stored value at that key and the old one elsewhere. -/
theorem get_set (table : Table κ α) (stored key : κ) (value : α) :
    (table.set stored value).get key = if stored = key then value else table.get key :=
  find_store table.rows stored key value

@[simp]
theorem get_set_same (table : Table κ α) (key : κ) (value : α) :
    (table.set key value).get key = value := by
  simp [get_set]

theorem get_set_of_ne (table : Table κ α) {stored key : κ} (value : α) (apart : stored ≠ key) :
    (table.set stored value).get key = table.get key := by
  simp [get_set, apart]

/-- A key without a row has the default value. -/
theorem get_eq_default_or_mem (table : Table κ α) (key : κ) :
    table.get key = default ∨ ∃ row ∈ table.rows, row.1 = key := by
  simp only [get]
  induction table.rows with
  | nil => exact Or.inl rfl
  | cons row rest ih =>
    rw [find]
    split
    · rename_i same
      exact Or.inr ⟨row, List.mem_cons_self, same⟩
    · rcases ih with missing | ⟨later, mem, same⟩
      · exact Or.inl missing
      · exact Or.inr ⟨later, List.mem_cons_of_mem row mem, same⟩

end Table

end Coordination
