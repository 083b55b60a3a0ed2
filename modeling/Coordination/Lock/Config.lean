import Coordination.Duration.Codec

/-!
# Lock settings

A lock may have a name, which logs and the lock's own text show, and a threshold: an acquisition
that took at least that long is logged. Without a threshold none is.
-/

namespace Coordination

/-- The settings of a lock. -/
structure LockConfig where
  name : Option String := none
  slowAcquireThreshold : Option Duration := some (Duration.ofMilliseconds 100)
deriving DecidableEq, Repr

namespace LockConfig

instance : Inhabited LockConfig := ⟨{}⟩

def named (name : String) : LockConfig := { name := some name }

/-- Settings under which no acquisition is logged as slow. -/
def quiet : LockConfig := { slowAcquireThreshold := none }

def displayName (config : LockConfig) : String := config.name.getD "anonymous"

/-- The names of the fields, in the order of the text. -/
def fieldNames : List String := ["name", "slow_acquire_threshold"]

/-- The document of the settings, unless a duration does not fit. -/
def toJson (config : LockConfig) : Except EncodeError Json := do
  let threshold ← match config.slowAcquireThreshold with
    | some threshold => threshold.toJson
    | none => pure .null
  let name : Json := match config.name with
    | some name => .string name
    | none => .null
  return .object [("name", name), ("slow_acquire_threshold", threshold)]

/-- The settings that a document holds. -/
def ofJson? (document : Json) : Option LockConfig :=
  match document.fields fieldNames with
  | some [name, threshold] => do
      let name ← Json.fieldOr (Json.nullable? Json.string?) (default : LockConfig).name name
      let threshold ←
        Json.fieldOr (Json.nullable? Duration.ofJson?) (default : LockConfig).slowAcquireThreshold
          threshold
      return ⟨name, threshold⟩
  | _ => none

end LockConfig

end Coordination
