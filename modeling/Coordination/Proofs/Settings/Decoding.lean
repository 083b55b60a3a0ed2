import Coordination.Proofs.Json.Assembly
import Coordination.Proofs.Settings.RoundTrip
import Mathlib.Data.List.Forall2

/-!
# What settings are decoded from

The settings that an object holds depend on its known members alone: neither their order nor any member of
another name makes a difference, a field that is left out has its default, and a field that is given twice
is refused. An array stands for the object of its items under the names of the first fields
(`decodes_settings`).
-/

namespace Coordination

namespace Json

section Fields

variable {name : String} {names : List String} {members others : List (String × Json)}

/-- The members with one of some names. -/
def known (names : List String) (members : List (String × Json)) : List (String × Json) :=
  members.filter (·.1 ∈ names)

theorem named_known (listed : name ∈ names) (members : List (String × Json)) :
    named name (known names members) = named name members := by
  rw [named, named, known, List.filter_filter]
  congr 2
  funext member
  by_cases same : member.1 = name
  · simp [same, listed]
  · simp [same]

theorem length_named (name : String) (members : List (String × Json)) :
    (named name members).length = (members.map Prod.fst).count name := by
  rw [named, List.length_map, List.count_eq_countP, List.countP_map, List.countP_eq_length_filter]
  rfl

theorem atMostOne_eq_of_perm {values documents : List Json} (alike : values.Perm documents) :
    atMostOne values = atMostOne documents := by
  cases values with
  | nil => rw [List.nil_perm.mp alike]
  | cons value values =>
      cases values with
      | nil => rw [List.singleton_perm.mp alike]
      | cons next values =>
          match documents, alike.length_eq with
          | _ :: _ :: _, _ => rfl

theorem atMostOne_eq_none {values : List Json} (several : 2 ≤ values.length) : atMostOne values = none := by
  match values, several with
  | _ :: _ :: _, _ => rfl

theorem mapM_congr {α β : Type} {first second : α → Option β} {list : List α}
    (same : ∀ element ∈ list, first element = second element) : list.mapM first = list.mapM second := by
  induction list with
  | nil => rfl
  | cons head tail ih =>
      rw [List.mapM_cons, List.mapM_cons, same head List.mem_cons_self,
        ih fun element listed => same element (List.mem_cons_of_mem head listed)]

theorem mapM_eq_none {α β : Type} {change : α → Option β} {list : List α} {element : α}
    (listed : element ∈ list) (fails : change element = none) : list.mapM change = none := by
  induction list with
  | nil => cases listed
  | cons head tail ih =>
      rw [List.mapM_cons]
      rcases List.mem_cons.mp listed with rfl | listed
      · rw [fails]
        rfl
      · rw [ih listed]
        cases change head <;> rfl

/-- Fields are taken from the known members, in whatever order these are. -/
theorem fields_eq_of_perm (alike : (known names members).Perm (known names others)) :
    fields names (.object members) = fields names (.object others) := by
  refine mapM_congr fun name listed => atMostOne_eq_of_perm ?_
  rw [← named_known listed members, ← named_known listed others]
  exact (alike.filter _).map _

theorem fields_eq_none (listed : name ∈ names) (several : 2 ≤ (members.map Prod.fst).count name) :
    fields names (.object members) = none := by
  rw [← length_named] at several
  exact mapM_eq_none listed (atMostOne_eq_none several)

theorem named_zip_of_notMem (unlisted : name ∉ names) (items : List Json) :
    named name (names.zip items) = [] := by
  rw [named, List.map_eq_nil_iff, List.filter_eq_nil_iff]
  rintro ⟨other, item⟩ paired same
  rw [← of_decide_eq_true same] at unlisted
  exact unlisted (List.of_mem_zip paired).1

/-- The items of an array are the fields of the object in which they have the names of the first fields. -/
theorem fields_zip (distinct : names.Nodup) {items : List Json} (few : items.length ≤ names.length) :
    fields names (.object (names.zip items)) = fields names (.array items) := by
  simp only [fields, if_pos few]
  induction names generalizing items with
  | nil =>
      rw [List.length_eq_zero_iff.mp (Nat.le_zero.mp few)]
      rfl
  | cons name names ih =>
      rcases List.nodup_cons.mp distinct with ⟨unlisted, distinct⟩
      cases items with
      | nil =>
          have rest := @ih distinct [] (Nat.zero_le _)
          rw [List.zip_nil_right] at rest ⊢
          rw [List.mapM_cons, rest]
          rfl
      | cons item items =>
          have others : ∀ other ∈ names, atMostOne (named other ((name, item) :: names.zip items))
              = atMostOne (named other (names.zip items)) := by
            intro other listed
            have unlike : name ≠ other := fun same => unlisted (same ▸ listed)
            rw [named, List.filter_cons_of_neg (by simpa using unlike)]
            rfl
          have first : named name ((name, item) :: names.zip items) = [item] := by
            rw [named, List.filter_cons_of_pos (by simp), List.map_cons]
            exact congrArg (item :: ·) (named_zip_of_notMem unlisted items)
          rw [List.zip_cons_cons, List.mapM_cons, first, mapM_congr others,
            ih distinct (Nat.le_of_succ_le_succ few)]
          simp [atMostOne]

end Fields

/-- The member of a name and a text of its value. -/
def spelled (text : String × String) : String × Json :=
  (text.1, (parse text.2.toList).getD .unreadable)

theorem forall₂_spelled {texts : List (String × String)}
    (hold : ∀ text ∈ texts, (parse text.2.toList).isSome) :
    List.Forall₂ Spells texts (texts.map spelled) := by
  rw [List.forall₂_map_right_iff, List.forall₂_same]
  intro text listed
  rcases Option.isSome_iff_exists.mp (hold text listed) with ⟨document, holds⟩
  exact ⟨rfl, by rw [spelled, holds, Option.getD_some]⟩

theorem known_spelled (names : List String) (texts : List (String × String)) :
    (texts.filter (·.1 ∈ names)).map spelled = known names (texts.map spelled) := by
  rw [known, List.filter_map]
  rfl

/-- What a record has for one of its fields: what is read from the only member of that name, or a default
if there is none. -/
inductive Takes {α : Type} (read : Json → Option α) (default : α) (name : String)
    (members : List (String × Json)) : α → Prop where
  | given {document : Json} {value : α} (only : named name members = [document])
      (reads : read document = some value) : Takes read default name members value
  | omitted (absent : name ∉ members.map Prod.fst) : Takes read default name members default

/-- What is read for a field from the members of its name, if there are not too many of them. -/
def gives {α : Type} (read : Json → Option α) (default : α) (name : String)
    (members : List (String × Json)) : Option α :=
  (atMostOne (named name members)).bind (fieldOr read default)

theorem takes_iff {α : Type} {read : Json → Option α} {default value : α} {name : String}
    {members : List (String × Json)} :
    Takes read default name members value ↔ gives read default name members = some value := by
  constructor
  · rintro (⟨only, reads⟩ | absent)
    · rw [gives, only]
      exact reads
    · rw [gives, List.length_eq_zero_iff.mp
        ((length_named name members).trans (List.count_eq_zero.mpr absent))]
      rfl
  · intro taken
    match listed : named name members with
    | [] =>
        rw [gives, listed] at taken
        cases taken
        refine .omitted (List.count_eq_zero.mp ?_)
        rw [← length_named, listed]
        rfl
    | [document] =>
        rw [gives, listed] at taken
        exact .given listed taken
    | _ :: _ :: _ =>
        rw [gives, listed] at taken
        cases taken

section Taken

variable {α : Type} {read : Json → Option α} {default value : α} {name : String}
  {members : List (String × Json)}

theorem mem_named {document : Json} (listed : (name, document) ∈ members) :
    document ∈ named name members :=
  List.mem_map.mpr ⟨(name, document), List.mem_filter.mpr ⟨listed, by simp⟩, rfl⟩

theorem Takes.eq_of_mem (takes : Takes read default name members value) {document : Json} {given : α}
    (listed : (name, document) ∈ members) (reads : read document = some given) : value = given := by
  cases takes with
  | given only read =>
      have same := mem_named listed
      rw [only, List.mem_singleton] at same
      rw [same, read] at reads
      exact Option.some.inj reads
  | omitted absent => exact absurd (List.mem_map_of_mem listed) absent

theorem Takes.eq_of_absent (takes : Takes read default name members value)
    (absent : name ∉ members.map Prod.fst) : value = default := by
  cases takes with
  | given only read =>
      rw [← List.count_eq_zero, ← length_named, only] at absent
      cases absent
  | omitted => rfl

end Taken

end Json

namespace Format

variable {α : Type} {format : Format α} {names : List String}
  {Fields : List (String × Json) → α → Prop}

/-- What settings are decoded from. `Fields` says what an object gives for every field. -/
structure Decodes (format : Format α) (names : List String)
    (Fields : List (String × Json) → α → Prop) : Prop where
  /-- An object is accepted if, and only if, it gives something for every field, and that is decoded. -/
  object : ∀ (text : String) members, Json.parse text.toList = some (.object members) →
    ∀ settings, format.read? text = some settings ↔ Fields members settings
  /-- Members of other names and the order of the members make no difference. -/
  alike : ∀ (text other : String) members others,
    Json.parse text.toList = some (.object members) → Json.parse other.toList = some (.object others) →
      (Json.known names members).Perm (Json.known names others) → format.read? text = format.read? other
  /-- The same for objects that are put together from the texts of their members: any text of a value,
  with whatever blanks around it, may be put behind another name. -/
  assembled : ∀ texts others : List (String × String),
    (∀ text ∈ texts ++ others, (Json.parse text.2.toList).isSome) →
      (texts.filter (·.1 ∈ names)).Perm (others.filter (·.1 ∈ names)) →
        format.read? (Json.objectText texts) = format.read? (Json.objectText others)
  /-- A known member that is given more than once is refused. -/
  once : ∀ (text : String) members, Json.parse text.toList = some (.object members) →
    ∀ name ∈ names, 2 ≤ (members.map Prod.fst).count name → format.read? text = none
  /-- An array of the first fields is decoded like the object of these fields. -/
  array : ∀ (text other : String) items, Json.parse text.toList = some (.array items) →
    items.length ≤ names.length → Json.parse other.toList = some (.object (names.zip items)) →
      format.read? text = format.read? other

/-- What there is to know about a format that goes through the fields of a record. -/
structure ByFields (format : Format α) (names : List String)
    (Fields : List (String × Json) → α → Prop) : Prop where
  distinct : names.Nodup
  same : ∀ document other : Json, document.fields names = other.fields names →
    format.ofJson? document = format.ofJson? other
  refused : ∀ document : Json, document.fields names = none → format.ofJson? document = none
  taken : ∀ members settings, format.ofJson? (.object members) = some settings ↔ Fields members settings

theorem read?_of_parse {text : String} {document : Json}
    (holds : Json.parse text.toList = some document) : format.read? text = format.ofJson? document := by
  rw [read?, holds]
  rfl

/-- A format that goes through the fields of a record decodes settings from these fields alone. -/
theorem ByFields.decodes (byFields : format.ByFields names Fields) : format.Decodes names Fields := by
  have alike : ∀ (text other : String) members others,
      Json.parse text.toList = some (.object members) → Json.parse other.toList = some (.object others) →
        (Json.known names members).Perm (Json.known names others) →
          format.read? text = format.read? other := by
    intro text other members others holds held alike
    rw [read?_of_parse holds, read?_of_parse held]
    exact byFields.same _ _ (Json.fields_eq_of_perm alike)
  refine ⟨?_, alike, ?_, ?_, ?_⟩
  · intro text members holds settings
    rw [read?_of_parse holds]
    exact byFields.taken members settings
  · intro texts others hold same
    refine alike _ _ _ _ (Json.parse_objectText ?_) (Json.parse_objectText ?_)
      (Json.known_spelled names texts ▸ Json.known_spelled names others ▸ same.map Json.spelled)
    · exact Json.forall₂_spelled fun text listed => hold text (List.mem_append_left others listed)
    · exact Json.forall₂_spelled fun text listed => hold text (List.mem_append_right texts listed)
  · intro text members holds name listed several
    rw [read?_of_parse holds]
    exact byFields.refused _ (Json.fields_eq_none listed several)
  · intro text other items holds few held
    rw [read?_of_parse holds, read?_of_parse held]
    exact (byFields.same _ _ (Json.fields_zip byFields.distinct few)).symm

end Format

namespace LockConfig

/-- What the members of an object give for the settings of a lock. A threshold that is left out is one of
100 milliseconds; a threshold of null is none. -/
structure Decoded (members : List (String × Json)) (settings : LockConfig) : Prop where
  name : Json.Takes (Json.nullable? Json.string?) none "name" members settings.name
  threshold : Json.Takes (Json.nullable? Duration.ofJson?) (some (Duration.ofMilliseconds 100))
    "slow_acquire_threshold" members settings.slowAcquireThreshold

theorem ofJson?_object (members : List (String × Json)) :
    ofJson? (.object members) = do
      let name ← Json.gives (Json.nullable? Json.string?) none "name" members
      let threshold ← Json.gives (Json.nullable? Duration.ofJson?)
        (some (Duration.ofMilliseconds 100)) "slow_acquire_threshold" members
      return ⟨name, threshold⟩ := by
  simp only [ofJson?, Json.fields, fieldNames, List.mapM_cons, List.mapM_nil, Json.gives]
  cases Json.atMostOne (Json.named "name" members) <;>
    cases Json.atMostOne (Json.named "slow_acquire_threshold" members) <;> simp
  rfl

theorem byFields : format.ByFields fieldNames Decoded := by
  refine ⟨by decide, ?_, ?_, ?_⟩
  · intro document other same
    simp only [format, ofJson?, same]
  · intro document none
    simp only [format, ofJson?, none]
  · rintro members ⟨name, threshold⟩
    simp only [format, ofJson?_object, Option.bind_eq_bind, Option.bind_eq_some_iff, Option.pure_def]
    constructor
    · rintro ⟨_, named, _, timed, same⟩
      cases same
      exact ⟨Json.takes_iff.mpr named, Json.takes_iff.mpr timed⟩
    · rintro ⟨name, threshold⟩
      exact ⟨_, Json.takes_iff.mp name, _, Json.takes_iff.mp threshold, rfl⟩

end LockConfig

namespace RegistryConfig

/-- What the members of an object give for the settings of a reaper. -/
structure Decoded (members : List (String × Json)) (settings : RegistryConfig) : Prop where
  interval : Json.Takes Duration.ofJson? (Duration.ofSeconds 30) "reap_interval" members
    settings.reapInterval
  threadName : Json.Takes Json.string? "lock-registry-reaper" "thread_name" members settings.threadName

theorem ofJson?_object (members : List (String × Json)) :
    ofJson? (.object members) = do
      let interval ← Json.gives Duration.ofJson? (Duration.ofSeconds 30) "reap_interval" members
      let name ← Json.gives Json.string? "lock-registry-reaper" "thread_name" members
      return ⟨interval, name⟩ := by
  simp only [ofJson?, Json.fields, fieldNames, List.mapM_cons, List.mapM_nil, Json.gives]
  cases Json.atMostOne (Json.named "reap_interval" members) <;>
    cases Json.atMostOne (Json.named "thread_name" members) <;> simp
  rfl

theorem byFields : format.ByFields fieldNames Decoded := by
  refine ⟨by decide, ?_, ?_, ?_⟩
  · intro document other same
    simp only [format, ofJson?, same]
  · intro document none
    simp only [format, ofJson?, none]
  · rintro members ⟨interval, name⟩
    simp only [format, ofJson?_object, Option.bind_eq_bind, Option.bind_eq_some_iff, Option.pure_def]
    constructor
    · rintro ⟨_, timed, _, named, same⟩
      cases same
      exact ⟨Json.takes_iff.mpr timed, Json.takes_iff.mpr named⟩
    · rintro ⟨interval, name⟩
      exact ⟨_, Json.takes_iff.mp interval, _, Json.takes_iff.mp name, rfl⟩

end RegistryConfig

namespace PoolConfig

/-- What the members of an object give for the settings of a pool, with a default for all that is left
out. -/
structure Decoded (fallback : PoolConfig) (members : List (String × Json)) (settings : PoolConfig) :
    Prop where
  threads : Json.Takes Json.word? fallback.threads "threads" members settings.threads
  mode : Json.Takes mode? fallback.mode "mode" members settings.mode
  exitSignal : Json.Takes Json.bool? fallback.exitSignal "exit_signal" members settings.exitSignal
  gracePeriod : Json.Takes Duration.ofJson? fallback.gracePeriod "grace_period" members
    settings.gracePeriod
  threadName : Json.Takes Json.string? fallback.threadName "thread_name" members settings.threadName

variable {fallback : PoolConfig}

theorem ofJson?_object (members : List (String × Json)) :
    ofJson? fallback (.object members) = do
      let threads ← Json.gives Json.word? fallback.threads "threads" members
      let mode ← Json.gives mode? fallback.mode "mode" members
      let exitSignal ← Json.gives Json.bool? fallback.exitSignal "exit_signal" members
      let grace ← Json.gives Duration.ofJson? fallback.gracePeriod "grace_period" members
      let name ← Json.gives Json.string? fallback.threadName "thread_name" members
      return ⟨threads, mode, exitSignal, grace, name⟩ := by
  simp only [ofJson?, Json.fields, fieldNames, List.mapM_cons, List.mapM_nil, Json.gives]
  cases Json.atMostOne (Json.named "threads" members) <;>
    cases Json.atMostOne (Json.named "mode" members) <;>
    cases Json.atMostOne (Json.named "exit_signal" members) <;>
    cases Json.atMostOne (Json.named "grace_period" members) <;>
    cases Json.atMostOne (Json.named "thread_name" members) <;> simp

theorem byFields : (format fallback).ByFields fieldNames (Decoded fallback) := by
  refine ⟨by decide, ?_, ?_, ?_⟩
  · intro document other same
    simp only [format, ofJson?, same]
  · intro document none
    simp only [format, ofJson?, none]
  · rintro members ⟨threads, mode, exitSignal, grace, name⟩
    simp only [format, ofJson?_object, Option.bind_eq_bind, Option.bind_eq_some_iff, Option.pure_def]
    constructor
    · rintro ⟨_, counted, _, queued, _, signalled, _, timed, _, named, same⟩
      cases same
      exact ⟨Json.takes_iff.mpr counted, Json.takes_iff.mpr queued, Json.takes_iff.mpr signalled,
        Json.takes_iff.mpr timed, Json.takes_iff.mpr named⟩
    · rintro ⟨threads, mode, exitSignal, grace, name⟩
      exact ⟨_, Json.takes_iff.mp threads, _, Json.takes_iff.mp mode, _, Json.takes_iff.mp exitSignal,
        _, Json.takes_iff.mp grace, _, Json.takes_iff.mp name, rfl⟩

end PoolConfig

/-- **Settings are decoded from the known members of an object alone**, with a default for what is left
out; the threshold of a lock is 100 milliseconds if it is left out and none if it is null. -/
theorem decodes_settings :
    LockConfig.format.Decodes LockConfig.fieldNames LockConfig.Decoded ∧
      RegistryConfig.format.Decodes RegistryConfig.fieldNames RegistryConfig.Decoded ∧
        (∀ fallback, (PoolConfig.format fallback).Decodes PoolConfig.fieldNames
          (PoolConfig.Decoded fallback)) ∧
          ∀ (text : String) members settings, Json.parse text.toList = some (.object members) →
            LockConfig.format.read? text = some settings →
              (("slow_acquire_threshold", .null) ∈ members → settings.slowAcquireThreshold = none) ∧
                ("slow_acquire_threshold" ∉ members.map Prod.fst →
                  settings.slowAcquireThreshold = some (Duration.ofMilliseconds 100)) := by
  refine ⟨LockConfig.byFields.decodes, RegistryConfig.byFields.decodes,
    fun fallback => PoolConfig.byFields.decodes, ?_⟩
  intro text members settings holds reads
  have decoded := (LockConfig.byFields.decodes.object text members holds settings).mp reads
  refine ⟨fun null => ?_, fun absent => ?_⟩
  · exact decoded.threshold.eq_of_mem null rfl
  · exact decoded.threshold.eq_of_absent absent

/-- An unknown member with a number beyond every bound, an explicit null, a threshold that is given twice,
and a pool by the first two of its fields. -/
theorem decodes_of_mixed :
    let lock : Json := .object [("retries", .array [.null]), ("slow_acquire_threshold", .null)]
    let twice : Json := .object [("slow_acquire_threshold", .null), ("name", .string "\n"),
      ("slow_acquire_threshold", .integer 5)]
    let pool : Json := .array [.integer 3, .string "draining"]
    let named : Json := .object [("threads", .integer 3), ("mode", .string "draining")]
    LockConfig.format.read? lock.text = some ⟨none, none⟩ ∧ LockConfig.format.read? twice.text = none ∧
      (PoolConfig.format (.blocking 4)).read? pool.text
        = (PoolConfig.format (.blocking 4)).read? named.text ∧
      RegistryConfig.format.read? (Json.objectText [("é", " [1e999] "), ("thread_name", "\"w\"")])
        = RegistryConfig.format.read? (Json.objectText [("thread_name", "\"w\"")]) := by
  intro lock twice pool named
  refine ⟨?_, ?_, ?_, ?_⟩
  · refine (decodes_settings.1.object lock.text _ (Json.parse_text rfl) _).mpr ⟨?_, ?_⟩
    · exact .omitted (by decide)
    · exact .given rfl rfl
  · exact decodes_settings.1.once twice.text _ (Json.parse_text rfl) "slow_acquire_threshold" (by decide)
      (by decide)
  · exact (decodes_settings.2.2.1 (.blocking 4)).array pool.text named.text _ (Json.parse_text rfl)
      (by decide) (Json.parse_text rfl)
  · exact decodes_settings.2.1.assembled _ _ (by decide +kernel) (by decide)

end Coordination
