import Coordination.Lock.Config
import Coordination.Pool.Config
import Coordination.Proofs.Json.RoundTrip
import Coordination.Registry.Config

/-!
# Settings that are read back

The settings of locks, of reapers and of pools are written in one way: as an object of all their fields,
with durations in whole milliseconds. So they are read back from their text with every duration rounded and
nothing else changed, and what has been rounded once is written in the same way again
(`roundTrips_settings`). Settings have a text if, and only if, their rounded durations fit in a word.
-/

namespace Coordination

/-- How some settings are written and read, with the durations that they hold. -/
structure Format (α : Type) where
  toJson : α → Except EncodeError Json
  ofJson? : Json → Option α
  durations : α → List Duration
  /-- The same settings with every duration rounded. -/
  rounded : α → α

namespace Duration

variable {duration : Duration} {document : Json}

theorem ofJson?_of_toJson (written : duration.toJson = .ok document) :
    ofJson? document = some duration.rounded := by
  rcases (duration.toJson_eq_ok_iff document).mp written with ⟨fits, rfl⟩
  exact congrArg (Option.map ofMilliseconds) (if_pos fits)

theorem isPlain_of_toJson (written : duration.toJson = .ok document) : document.isPlain = true := by
  rcases (duration.toJson_eq_ok_iff document).mp written with ⟨fits, rfl⟩
  exact Json.isPlain_natural fits

/-- What is rounded is written in the same way. -/
theorem toJson_rounded (written : duration.toJson = .ok document) :
    duration.rounded.toJson = .ok document := by
  rw [toJson_eq_ok_iff] at written ⊢
  rwa [rounded, nearestMillisecond_ofMilliseconds]

theorem exists_toJson_iff (duration : Duration) :
    (∃ document, duration.toJson = .ok document) ↔ duration.nearestMillisecond < Json.wordBound := by
  simp [toJson_eq_ok_iff]

/-- Rounding leaves whole milliseconds alone. -/
theorem rounded_eq_iff (duration : Duration) :
    duration.rounded = duration ↔ ∃ count, duration = ofMilliseconds count := by
  constructor
  · exact fun same => ⟨duration.nearestMillisecond, same.symm⟩
  · rintro ⟨count, rfl⟩
    rw [rounded, nearestMillisecond_ofMilliseconds]

end Duration

namespace Format

variable {α : Type}

def write (format : Format α) (settings : α) : Except EncodeError String :=
  (format.toJson settings).map Json.text

def read? (format : Format α) (text : String) : Option α :=
  (Json.parse text.toList).bind format.ofJson?

/-- What becomes of settings that are written and read back. -/
structure RoundTrips (format : Format α) (settings : α) : Prop where
  /-- Settings have a text if, and only if, every duration, rounded to milliseconds, fits in a word. -/
  writes : (∃ text, format.write settings = .ok text) ↔
    ∀ duration ∈ format.durations settings, duration.nearestMillisecond < Json.wordBound
  /-- Nothing but the rounding of the durations changes. -/
  reads : ∀ text, format.write settings = .ok text → format.read? text = some (format.rounded settings)
  /-- Settings come back as they were if, and only if, their durations are whole milliseconds. -/
  unchanged : ∀ text, format.write settings = .ok text → (format.read? text = some settings ↔
    ∀ duration ∈ format.durations settings, ∃ count, duration = Duration.ofMilliseconds count)
  /-- Settings that were read are written in the same way again. -/
  rewrites : ∀ text result, format.write settings = .ok text → format.read? text = some result →
    format.write result = .ok text

variable {format : Format α} {settings : α}

/-- What there is to know about the document of some settings. -/
structure Faithful (format : Format α) (settings : α) : Prop where
  written : (∃ document, format.toJson settings = .ok document) ↔
    ∀ duration ∈ format.durations settings, ∃ document, duration.toJson = .ok document
  plain : ∀ document, format.toJson settings = .ok document → document.isPlain = true
  read : ∀ document, format.toJson settings = .ok document →
    format.ofJson? document = some (format.rounded settings)
  again : ∀ document, format.toJson settings = .ok document →
    format.toJson (format.rounded settings) = .ok document
  whole : format.rounded settings = settings ↔
    ∀ duration ∈ format.durations settings, duration.rounded = duration

theorem map_eq_ok_iff {β γ : Type} {outcome : Except EncodeError β} {change : β → γ} {result : γ} :
    outcome.map change = .ok result ↔ ∃ value, outcome = .ok value ∧ result = change value := by
  cases outcome with
  | error reason => simp [Except.map]
  | ok value => simp [Except.map, eq_comm]

/-- Settings with one duration are faithful to it if the document that is put around it is. -/
theorem Faithful.of_duration {duration : Duration} {frame : Json → Json}
    (single : format.durations settings = [duration])
    (written : format.toJson settings = duration.toJson.map frame)
    (again : format.toJson (format.rounded settings) = duration.rounded.toJson.map frame)
    (plain : ∀ part, part.isPlain = true → (frame part).isPlain = true)
    (read : ∀ part, Duration.ofJson? part = some duration.rounded →
      format.ofJson? (frame part) = some (format.rounded settings))
    (whole : format.rounded settings = settings ↔ duration.rounded = duration) :
    format.Faithful settings := by
  refine ⟨?_, ?_, ?_, ?_, ?_⟩
  · simp [written, map_eq_ok_iff, single]
  · intro document wrote
    rcases map_eq_ok_iff.mp (written ▸ wrote) with ⟨part, timed, rfl⟩
    exact plain part (Duration.isPlain_of_toJson timed)
  · intro document wrote
    rcases map_eq_ok_iff.mp (written ▸ wrote) with ⟨part, timed, rfl⟩
    exact read part (Duration.ofJson?_of_toJson timed)
  · intro document wrote
    rcases map_eq_ok_iff.mp (written ▸ wrote) with ⟨part, timed, rfl⟩
    rw [again]
    exact map_eq_ok_iff.mpr ⟨part, Duration.toJson_rounded timed, rfl⟩
  · simpa [single] using whole

theorem Faithful.roundTrips (faithful : format.Faithful settings) : format.RoundTrips settings := by
  have reads : ∀ text, format.write settings = .ok text →
      format.read? text = some (format.rounded settings) := by
    intro text written
    rcases map_eq_ok_iff.mp written with ⟨document, wrote, rfl⟩
    rw [read?, Json.parse_text (faithful.plain document wrote)]
    exact faithful.read document wrote
  refine ⟨?_, reads, ?_, ?_⟩
  · simp only [write, map_eq_ok_iff, ← Duration.exists_toJson_iff]
    rw [← faithful.written]
    exact ⟨fun ⟨_, document, wrote, _⟩ => ⟨document, wrote⟩,
      fun ⟨document, wrote⟩ => ⟨_, document, wrote, rfl⟩⟩
  · intro text written
    simp only [← Duration.rounded_eq_iff]
    rw [reads text written, Option.some.injEq, faithful.whole]
  · intro text result written read
    obtain rfl := Option.some.inj ((reads text written).symm.trans read)
    rcases map_eq_ok_iff.mp written with ⟨document, wrote, rfl⟩
    exact map_eq_ok_iff.mpr ⟨document, faithful.again document wrote, rfl⟩

end Format

namespace LockConfig

def format : Format LockConfig where
  toJson := toJson
  ofJson? := ofJson?
  durations settings := settings.slowAcquireThreshold.toList
  rounded settings :=
    { settings with slowAcquireThreshold := settings.slowAcquireThreshold.map Duration.rounded }

/-- The document of settings with a name, or without one, and with the document of a threshold. -/
def frame (name : Option String) (threshold : Json) : Json :=
  .object [("name", (name.map Json.string).getD .null), ("slow_acquire_threshold", threshold)]

theorem toJson_some (name : Option String) (threshold : Duration) :
    toJson ⟨name, some threshold⟩ = threshold.toJson.map (frame name) := by
  simp only [toJson]
  cases threshold.toJson <;> cases name <;> rfl

theorem toJson_none (name : Option String) : toJson ⟨name, none⟩ = .ok (frame name .null) := by
  cases name <;> rfl

theorem isPlain_frame (name : Option String) {threshold : Json} (plain : threshold.isPlain = true) :
    (frame name threshold).isPlain = true := by
  cases name <;> simp [frame, Json.isPlain, Json.havePlain, plain]

theorem nullable?_name (name : Option String) :
    Json.nullable? Json.string? ((name.map Json.string).getD .null) = some name := by
  cases name <;> rfl

theorem nullable?_threshold {document : Json} {threshold : Duration}
    (read : Duration.ofJson? document = some threshold) :
    Json.nullable? Duration.ofJson? document = some (some threshold) := by
  cases document with
  | null => cases read
  | _ => exact congrArg (Option.map some) read

theorem ofJson?_frame (name : Option String) {document : Json} {threshold : Option Duration}
    (read : Json.nullable? Duration.ofJson? document = some threshold) :
    ofJson? (frame name document) = some ⟨name, threshold⟩ := by
  simp [frame, ofJson?, Json.fields, fieldNames, Json.named, Json.atMostOne, Json.fieldOr, read,
    nullable?_name]

theorem faithful (settings : LockConfig) : format.Faithful settings := by
  rcases settings with ⟨name, threshold⟩
  cases threshold with
  | some threshold =>
      refine .of_duration rfl (toJson_some name threshold) (toJson_some name threshold.rounded)
        (fun _ => isPlain_frame name) ?_ (by simp [format])
      exact fun document read => ofJson?_frame name (nullable?_threshold read)
  | none =>
      -- The null of an absent threshold is not the default, which is for a field that is left out.
      have only (document : Json) (written : format.toJson ⟨name, none⟩ = .ok document) :
          document = frame name .null :=
        Except.ok.inj (written.symm.trans (toJson_none name))
      refine ⟨?_, ?_, ?_, ?_, ?_⟩
      · exact ⟨by simp [format], fun _ => ⟨_, toJson_none name⟩⟩
      · rintro document written
        rw [only document written]
        exact isPlain_frame name rfl
      · rintro document written
        rw [only document written]
        exact ofJson?_frame name rfl
      · exact fun _ => id
      · simp [format]

end LockConfig

namespace RegistryConfig

def format : Format RegistryConfig where
  toJson := toJson
  ofJson? := ofJson?
  durations settings := [settings.reapInterval]
  rounded settings := { settings with reapInterval := settings.reapInterval.rounded }

theorem toJson_eq (settings : RegistryConfig) :
    settings.toJson = settings.reapInterval.toJson.map fun interval =>
      .object [("reap_interval", interval), ("thread_name", .string settings.threadName)] := by
  rw [toJson]
  cases settings.reapInterval.toJson <;> rfl

theorem faithful (settings : RegistryConfig) : format.Faithful settings := by
  refine .of_duration rfl settings.toJson_eq
    (toJson_eq { settings with reapInterval := settings.reapInterval.rounded }) ?_ ?_ ?_
  · intro interval plain
    simp [Json.isPlain, Json.havePlain, plain]
  · intro interval read
    simp [format, ofJson?, Json.fields, fieldNames, Json.named, Json.atMostOne, Json.fieldOr, read,
      Json.string?]
  · cases settings
    simp [format]

end RegistryConfig

namespace PoolConfig

/-- The settings of a pool, read with a default for what is left out. -/
def format (fallback : PoolConfig) : Format PoolConfig where
  toJson := toJson
  ofJson? := ofJson? fallback
  durations settings := [settings.gracePeriod]
  rounded settings := { settings with gracePeriod := settings.gracePeriod.rounded }

theorem toJson_eq (settings : PoolConfig) :
    settings.toJson = settings.gracePeriod.toJson.map fun grace =>
      .object [
        ("threads", .integer settings.threads),
        ("mode", .string settings.mode.name),
        ("exit_signal", .bool settings.exitSignal),
        ("grace_period", grace),
        ("thread_name", .string settings.threadName)] := by
  rw [toJson]
  cases settings.gracePeriod.toJson <;> rfl

theorem mode?_name (mode : QueueMode) : mode? (.string mode.name) = some mode := by
  cases mode <;> decide

theorem faithful (fallback : PoolConfig) {settings : PoolConfig}
    (counted : settings.threads < Json.wordBound) : (format fallback).Faithful settings := by
  have threads : Json.word? (.integer settings.threads) = some settings.threads := if_pos counted
  refine .of_duration rfl settings.toJson_eq
    (toJson_eq { settings with gracePeriod := settings.gracePeriod.rounded }) ?_ ?_ ?_
  · intro grace plain
    simpa [Json.isPlain, Json.havePlain, plain] using counted
  · intro grace read
    simp [format, ofJson?, Json.fields, fieldNames, Json.named, Json.atMostOne, Json.fieldOr, read,
      Json.string?, Json.bool?, mode?_name, threads]
  · cases settings
    simp [format]

end PoolConfig

/-- **Settings are read back as they were written**, but for the rounding of their durations. The number of
threads of a pool is one of 64 bits. -/
theorem roundTrips_settings :
    (∀ settings, LockConfig.format.RoundTrips settings) ∧
      (∀ settings, RegistryConfig.format.RoundTrips settings) ∧
        ∀ fallback settings, settings.threads < Json.wordBound →
          (PoolConfig.format fallback).RoundTrips settings := by
  refine ⟨fun settings => ?_, fun settings => ?_, fun fallback settings counted => ?_⟩
  · exact settings.faithful.roundTrips
  · exact settings.faithful.roundTrips
  · exact (PoolConfig.faithful fallback counted).roundTrips

/-- As many threads as there can be, names that have to be escaped, half a millisecond and no threshold. -/
theorem roundTrips_of_edges :
    let lock : LockConfig := { name := some "\"\\\u0001", slowAcquireThreshold := none }
    let reaper : RegistryConfig := { reapInterval := ⟨999500000⟩, threadName := "é\n" }
    let pool : PoolConfig :=
      { threads := 18446744073709551615, gracePeriod := ⟨1500000⟩, threadName := "" }
    pool.threads < Json.wordBound ∧
      LockConfig.format.write lock
        = .ok "\x7b\"name\":\"\\\"\\\\\\u0001\",\"slow_acquire_threshold\":null\x7d" ∧
      LockConfig.format.RoundTrips lock ∧ RegistryConfig.format.RoundTrips reaper ∧
        (PoolConfig.format (.blocking 4)).RoundTrips pool := by
  intro lock reaper pool
  have counted : pool.threads < Json.wordBound := by decide
  refine ⟨counted, by decide +kernel, roundTrips_settings.1 lock, roundTrips_settings.2.1 reaper, ?_⟩
  exact roundTrips_settings.2.2 (.blocking 4) pool counted

end Coordination
