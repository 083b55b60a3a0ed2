import Coordination.Duration.Codec

/-!
# Reaper settings

A reaper sweeps its registry once in every interval, on a thread of its own that has a name.
-/

namespace Coordination

/-- The settings of a registry's reaper. -/
structure RegistryConfig where
  reapInterval : Duration := Duration.ofSeconds 30
  threadName : String := "lock-registry-reaper"
deriving DecidableEq, Repr

namespace RegistryConfig

instance : Inhabited RegistryConfig := ⟨{}⟩

/-- The names of the fields, in the order of the text. -/
def fieldNames : List String := ["reap_interval", "thread_name"]

/-- The document of the settings, unless the interval does not fit. -/
def toJson (config : RegistryConfig) : Except EncodeError Json := do
  let interval ← config.reapInterval.toJson
  return .object [("reap_interval", interval), ("thread_name", .string config.threadName)]

/-- The settings that a document holds. -/
def ofJson? (document : Json) : Option RegistryConfig :=
  match document.fields fieldNames with
  | some [interval, name] => do
      let interval ←
        Json.fieldOr Duration.ofJson? (default : RegistryConfig).reapInterval interval
      let name ← Json.fieldOr Json.string? (default : RegistryConfig).threadName name
      return ⟨interval, name⟩
  | _ => none

end RegistryConfig

end Coordination
