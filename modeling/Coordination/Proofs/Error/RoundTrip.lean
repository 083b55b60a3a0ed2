import Coordination.Error.Codec
import Coordination.Proofs.Json.RoundTrip

/-!
# Errors that are read back

An error is written as a tag with content, or as a tag alone. A reader gets the same tag and the same
content from the object of the two, in either order, and from the array of them
(`Tagged.ofJson?_of_spelling`), so an error is read back from its text and from every other spelling of
it, and no two errors have one text (`roundTrips_errors`).
-/

namespace Coordination

namespace Tagged

/-- The documents of a tag with content: the object of the two in either order, and the array. -/
def spellings (tag : String) (content : Json) : List Json :=
  [.object [("error_type", .string tag), ("details", content)],
    .object [("details", content), ("error_type", .string tag)],
    .array [.string tag, content]]

/-- However a tag and its content are spelled, they are read. Content that comes before its tag is kept
as a whole until the tag is known, so it has to be readable. -/
theorem ofJson?_of_spelling {tag : String} {content document : Json}
    (readable : content.isReadable contentDepth = true) (spelled : document ∈ spellings tag content) :
    ofJson? document = some ⟨tag, some content⟩ := by
  simp only [spellings, List.mem_cons, List.not_mem_nil, or_false] at spelled
  rcases spelled with rfl | rfl | rfl
  · simp [ofJson?, Json.named, Json.atMostOne, Json.choice?, contentComesFirst]
  · simp [ofJson?, Json.named, Json.atMostOne, Json.choice?, readable]
  · rfl

theorem ofJson?_of_tag (tag : String) : ofJson? (toJson ⟨tag, none⟩) = some ⟨tag, none⟩ := by
  simp [toJson, ofJson?, Json.named, Json.atMostOne, Json.choice?]

theorem isPlain_of_spelling {tag : String} {content document : Json} (plain : content.isPlain = true)
    (spelled : document ∈ spellings tag content) : document.isPlain = true := by
  simp only [spellings, List.mem_cons, List.not_mem_nil, or_false] at spelled
  rcases spelled with rfl | rfl | rfl <;>
    simp [Json.isPlain, Json.havePlain, Json.arePlain, plain]

end Tagged

/-- How the errors of one kind are written and read. -/
structure ErrorFormat (α : Type) where
  toJson : α → Json
  ofJson? : Json → Option α
  /-- The tag of an error, with its content. -/
  toTagged : α → Tagged
  /-- Whether the numbers of an error are numbers of 64 bits. -/
  Fits : α → Prop

namespace ErrorFormat

variable {α : Type}

def write (format : ErrorFormat α) (error : α) : String := (format.toJson error).text

def read? (format : ErrorFormat α) (text : String) : Option α :=
  (Json.parse text.toList).bind format.ofJson?

/-- What becomes of an error that is written and read back. -/
structure RoundTrips (format : ErrorFormat α) (error : α) : Prop where
  reads : format.read? (format.write error) = some error
  /-- No other error has the same text. -/
  distinct : ∀ other, format.Fits other → format.write other = format.write error → other = error
  /-- An error with content is written as the object of its tag and its content. -/
  written : ∀ content, (format.toTagged error).content = some content →
    format.write error
      = (Json.object [("error_type", .string (format.toTagged error).tag), ("details", content)]).text
  /-- An error with content is read from every text, with whatever blanks and escapes, of every spelling
  of its tag and its content, and each spelling has a text. -/
  spelled : ∀ content, (format.toTagged error).content = some content →
    ∀ document ∈ Tagged.spellings (format.toTagged error).tag content,
      Json.parse document.text.toList = some document ∧
        ∀ text : String, Json.parse text.toList = some document → format.read? text = some error

/-- What there is to know about the document of an error. -/
structure Faithful (format : ErrorFormat α) (error : α) : Prop where
  written : format.toJson error = (format.toTagged error).toJson
  read : ∀ document, Tagged.ofJson? document = some (format.toTagged error) →
    format.ofJson? document = some error
  plain : ∀ content, (format.toTagged error).content = some content →
    content.isPlain = true ∧ content.isReadable Tagged.contentDepth = true

variable {format : ErrorFormat α} {error : α}

theorem Faithful.reads (faithful : format.Faithful error) :
    format.read? (format.write error) = some error := by
  have tagged : (format.toTagged error).toJson.isPlain = true ∧
      Tagged.ofJson? (format.toTagged error).toJson = some (format.toTagged error) := by
    rcases whole : format.toTagged error with ⟨tag, _ | content⟩
    · exact ⟨rfl, Tagged.ofJson?_of_tag tag⟩
    · rcases faithful.plain content (by rw [whole]) with ⟨plain, readable⟩
      -- A tag with content is written in the first of its spellings.
      have first : Tagged.toJson ⟨tag, some content⟩ ∈ Tagged.spellings tag content :=
        List.mem_cons_self
      exact ⟨Tagged.isPlain_of_spelling plain first, Tagged.ofJson?_of_spelling readable first⟩
  rw [read?, write, faithful.written, Json.parse_text tagged.1, Option.bind_some]
  exact faithful.read _ tagged.2

theorem Faithful.roundTrips (faithful : format.Faithful error)
    (others : ∀ other, format.Fits other → format.Faithful other) : format.RoundTrips error := by
  refine ⟨faithful.reads, ?_, ?_, ?_⟩
  · intro other fits same
    have reads := (others other fits).reads
    rw [same, faithful.reads] at reads
    exact (Option.some.inj reads).symm
  · intro content contained
    rw [write, faithful.written, Tagged.toJson, contained]
    rfl
  · intro content contained document spelled
    rcases faithful.plain content contained with ⟨plain, readable⟩
    refine ⟨Json.parse_text (Tagged.isPlain_of_spelling plain spelled), fun text holds => ?_⟩
    rw [read?, holds, Option.bind_some]
    refine faithful.read document ?_
    rw [Tagged.ofJson?_of_spelling readable spelled, ← contained]

end ErrorFormat

namespace Json

theorem word?_of_lt {count : Nat} (fits : count < wordBound) : word? (.integer count) = some count :=
  if_pos fits

end Json

/-- The errors of a lock; the number of holds is one of 64 bits. -/
def LockError.format : ErrorFormat LockError where
  toJson := toJson
  ofJson? := ofJson?
  toTagged := toTagged
  Fits
    | .upgradeNotPermitted readHolds => readHolds < Json.wordBound
    | .illegalUpgradeState _ => True

theorem LockError.faithful (error : LockError) (fits : format.Fits error) :
    format.Faithful error := by
  refine ⟨rfl, fun document tagged => ?_, ?_⟩
  · change (Tagged.ofJson? document).bind ofTagged? = some error
    rw [tagged, Option.bind_some]
    cases error with
    | illegalUpgradeState reason => rfl
    | upgradeNotPermitted readHolds =>
        simp [format, toTagged, ofTagged?, Tagged.field?, Json.named, Json.word?_of_lt fits]
  · intro content contained
    cases error with
    | illegalUpgradeState reason =>
        cases contained
        exact ⟨rfl, rfl⟩
    | upgradeNotPermitted readHolds =>
        cases contained
        have plain : (Json.integer readHolds).isPlain = true := Json.isPlain_natural fits
        exact ⟨Bool.and_eq_true_iff.mpr ⟨plain, rfl⟩, rfl⟩

/-- The errors of a pool; the number of threads is one of 64 bits. -/
def PoolError.format : ErrorFormat PoolError where
  toJson := toJson
  ofJson? := ofJson?
  toTagged := toTagged
  Fits
    | .invalidThreadCount count => count < Json.wordBound
    | _ => True

theorem PoolError.faithful (error : PoolError) (fits : format.Fits error) :
    format.Faithful error := by
  refine ⟨rfl, fun document tagged => ?_, ?_⟩
  · change (Tagged.ofJson? document).bind ofTagged? = some error
    rw [tagged, Option.bind_some]
    cases error with
    | invalidThreadCount count =>
        simp [format, toTagged, ofTagged?, Json.word?_of_lt fits]
    | _ => rfl
  · intro content contained
    cases error with
    | invalidThreadCount count =>
        cases contained
        exact ⟨Json.isPlain_natural fits, rfl⟩
    | spawnFailed reason =>
        cases contained
        exact ⟨rfl, rfl⟩
    | _ => cases contained

/-- **Errors are read back as they were written**, from every spelling, and different errors have
different texts. -/
theorem roundTrips_errors :
    (∀ error, LockError.format.Fits error → LockError.format.RoundTrips error) ∧
      ∀ error, PoolError.format.Fits error → PoolError.format.RoundTrips error := by
  constructor
  · exact fun error fits => (error.faithful fits).roundTrips LockError.faithful
  · exact fun error fits => (error.faithful fits).roundTrips PoolError.faithful

/-- As many holds as there can be, and a reason that has to be escaped. -/
theorem roundTrips_of_extremes :
    let holds : LockError := .upgradeNotPermitted 18446744073709551615
    let reason : PoolError := .spawnFailed "\"\\\u0001é"
    LockError.format.Fits holds ∧ PoolError.format.Fits reason ∧
      LockError.format.write holds
        = "\x7b\"error_type\":\"lock_upgrade_not_permitted\"," ++
            "\"details\":\x7b\"read_holds\":18446744073709551615\x7d\x7d" ∧
      PoolError.format.write reason
        = "\x7b\"error_type\":\"spawn_failed\",\"details\":\"\\\"\\\\\\u0001é\"\x7d" ∧
      LockError.format.RoundTrips holds ∧ PoolError.format.RoundTrips reason := by
  intro holds reason
  have fits : 18446744073709551615 < Json.wordBound := by decide
  refine ⟨fits, trivial, by decide +kernel, by decide +kernel, roundTrips_errors.1 holds fits, ?_⟩
  exact roundTrips_errors.2 reason trivial

end Coordination
