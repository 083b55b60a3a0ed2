import Coordination.Proofs.Json.Scalars

/-!
# Documents that are read back

The compact text of a document is read back as that document (`parse_text`), if it is made of what settings
and errors are made of: nulls, truth values, texts, integers that fit in a word, and arrays and objects of
them. A value that is written inside of another one is read back from the whole text, with what stands
behind it left over, so that the induction goes through the document from the outside.
-/

namespace Coordination.Json

mutual

/-- Whether a document is written in full: no part of it is a number with a point or an exponent, one that
does not fit in a word, or unreadable. -/
def isPlain : Json → Bool
  | .null | .bool _ | .string _ => true
  | .integer value => value.natAbs < wordBound
  | .decimal _ | .unreadable => false
  | .array items => arePlain items
  | .object members => havePlain members

def arePlain : List Json → Bool
  | [] => true
  | item :: rest => isPlain item && arePlain rest

def havePlain : List (String × Json) → Bool
  | [] => true
  | (_, value) :: rest => isPlain value && havePlain rest

end

variable {rest : List Char}

theorem isPlain_natural {count : Nat} (fits : count < wordBound) :
    (Json.integer count).isPlain = true := by
  rw [isPlain, Int.natAbs_natCast]
  exact decide_eq_true fits

/-- A value may begin with a character. -/
def Opens (head : Char) : Prop := isBlank head = false ∧ head ≠ ']'

theorem skipBlanks_cons {head : Char} (opens : isBlank head = false) (rest : List Char) :
    skipBlanks (head :: rest) = head :: rest :=
  List.dropWhile_cons_of_neg (by simp [opens])

theorem Closes.skipBlanks (closes : Closes rest) : Json.skipBlanks rest = rest := by
  cases closes <;> rfl

theorem opens_of_isDigit {head : Char} (digit : head.isDigit = true) : Opens head := by
  refine ⟨?_, ?_⟩
  · simp only [isBlank, Bool.or_eq_false_iff, decide_eq_false_iff_not]
    refine ⟨⟨⟨?_, ?_⟩, ?_⟩, ?_⟩ <;> rintro rfl <;> cases digit
  · rintro rfl
    cases digit

theorem exists_render {document : Json} (plain : document.isPlain = true) :
    ∃ head tail, document.render = head :: tail ∧ Opens head := by
  cases document with
  | integer value =>
      cases value with
      | ofNat count =>
          rcases exists_digits count with ⟨head, tail, written, digit, _⟩
          exact ⟨head, tail, written, opens_of_isDigit digit⟩
      | negSucc count => exact ⟨'-', _, rfl, by decide, by decide⟩
  | decimal | unreadable => cases plain
  | null => exact ⟨_, _, rfl, by decide, by decide⟩
  | bool value => cases value <;> exact ⟨_, _, rfl, by decide, by decide⟩
  | string | array | object => exact ⟨_, _, rfl, by decide, by decide⟩

section Values

variable {fuel : Nat}

theorem readValue_quote (text : String) :
    readValue (fuel + 1) (quote text.toList ++ rest) = some (.string text, rest) := by
  have opens : isBlank '"' = false := by decide
  simp only [quote, List.cons_append, List.append_assoc, List.nil_append, readValue,
    skipBlanks_cons opens, readText_quote]
  rfl

/-- What begins with a digit or a minus is a number. -/
theorem readValue_number {head : Char} (starts : head.isDigit = true ∨ head = '-') (tail : List Char) :
    readValue (fuel + 1) (head :: tail) = readNumber (head :: tail) := by
  have blank : isBlank head = false := by
    rcases starts with digit | rfl
    · exact (opens_of_isDigit digit).1
    · decide
  rw [readValue, skipBlanks_cons blank]
  split
  case h_7 => rfl
  all_goals
    next same =>
      rw [(List.cons.inj same).1] at starts
      rcases starts with digit | sign
      · cases digit
      · cases sign

theorem readValue_renderInteger (closes : Closes rest) {value : Int} (fits : value.natAbs < wordBound) :
    readValue (fuel + 1) (renderInteger value ++ rest) = some (.integer value, rest) := by
  rw [← readNumber_renderInteger closes fits]
  cases value with
  | ofNat count =>
      rcases exists_digits count with ⟨head, tail, written, digit, _⟩
      rw [renderInteger, written]
      exact readValue_number (Or.inl digit) _
  | negSucc count => exact readValue_number (Or.inr rfl) _

theorem readValue_bracket {head : Char} (opens : Opens head) (tail : List Char) :
    readValue (fuel + 1) ('[' :: head :: tail)
      = (readItems fuel (head :: tail)).map fun (items, rest) => (.array items, rest) := by
  have bracket : isBlank '[' = false := by decide
  rw [readValue, skipBlanks_cons bracket]
  simp only [skipBlanks_cons opens.1]
  split
  · next same => exact absurd (List.cons.inj same).1 opens.2
  · rfl

theorem readValue_brace (tail : List Char) :
    readValue (fuel + 1) ('\x7b' :: '"' :: tail)
      = (readMembers fuel ('"' :: tail)).map fun (members, rest) =>
          ((members.map Json.object).getD .unreadable, rest) := by
  have brace : isBlank '\x7b' = false := by decide
  have quote : isBlank '"' = false := by decide
  rw [readValue, skipBlanks_cons brace]
  simp only [skipBlanks_cons quote]
  rfl

section Reading

variable {characters left more : List Char} {item value : Json} {items : List Json}
  {members : List (String × Json)}

theorem readItems_last (reads : readValue fuel characters = some (item, ']' :: rest)) :
    readItems (fuel + 1) characters = some ([item], rest) := by
  simp only [readItems, reads, Option.bind_eq_bind, Option.bind_some, (Closes.bracket rest).skipBlanks]

theorem readItems_cons (reads : readValue fuel characters = some (item, ',' :: more))
    (others : readItems fuel more = some (items, rest)) :
    readItems (fuel + 1) characters = some (item :: items, rest) := by
  simp only [readItems, reads, Option.bind_eq_bind, Option.bind_some, (Closes.comma more).skipBlanks,
    others, Option.map_some]

theorem readMembers_last {name : String} (reads : readValue fuel characters = some (value, left))
    (ends : skipBlanks left = '\x7d' :: rest) :
    readMembers (fuel + 1) (quote name.toList ++ ':' :: characters) = some (some [(name, value)], rest) := by
  have quoted : isBlank '"' = false := by decide
  have colon : isBlank ':' = false := by decide
  simp only [readMembers, quote, List.cons_append, List.append_assoc, List.nil_append,
    skipBlanks_cons quoted, readText_quote, Option.bind_eq_bind, Option.bind_some,
    skipBlanks_cons colon, reads, ends, Option.map_some]

theorem readMembers_cons {name : String} (reads : readValue fuel characters = some (value, left))
    (goes : skipBlanks left = ',' :: more)
    (others : readMembers fuel more = some (some members, rest)) :
    readMembers (fuel + 1) (quote name.toList ++ ':' :: characters)
      = some (some ((name, value) :: members), rest) := by
  have quoted : isBlank '"' = false := by decide
  have colon : isBlank ':' = false := by decide
  simp only [readMembers, quote, List.cons_append, List.append_assoc, List.nil_append,
    skipBlanks_cons quoted, readText_quote, Option.bind_eq_bind, Option.bind_some,
    skipBlanks_cons colon, reads, goes, others, Option.map_some]

end Reading

end Values

theorem length_render_pos {document : Json} (plain : document.isPlain = true) :
    0 < document.render.length := by
  rcases exists_render plain with ⟨head, tail, written, _⟩
  rw [written]
  exact Nat.succ_pos _

theorem exists_renderItems {item : Json} (plain : item.isPlain = true) (items : List Json) :
    ∃ head tail, renderItems (item :: items) = head :: tail ∧ Opens head := by
  rcases exists_render plain with ⟨head, tail, written, opens⟩
  cases items with
  | nil => exact ⟨head, tail, written, opens⟩
  | cons next items =>
      refine ⟨head, tail ++ ',' :: renderItems (next :: items), ?_, opens⟩
      rw [renderItems, written, List.cons_append]

theorem exists_renderMembers (member : String × Json) (members : List (String × Json)) :
    ∃ tail, renderMembers (member :: members) = '"' :: tail := by
  cases members <;> exact ⟨_, rfl⟩

mutual

/-- A document is read back from the text in which it stands. The fuel is used up at two units for every
character at most, since an item is read by way of its array. -/
theorem readValue_render : ∀ (document : Json) (fuel : Nat) (rest : List Char),
    document.isPlain = true → 2 * document.render.length ≤ fuel + 1 → Closes rest →
      readValue (fuel + 1) (document.render ++ rest) = some (document, rest)
  | .null, _, _, _, _, _ | .bool true, _, _, _, _, _ | .bool false, _, _, _, _, _
  | .array [], _, _, _, _, _ | .object [], _, _, _, _, _ => by
      simp [render, renderItems, renderMembers, readValue, skipBlanks, isBlank]
  | .string text, _, _, _, _, _ => readValue_quote text
  | .integer value, _, _, plain, _, closes =>
      readValue_renderInteger closes (by simpa [isPlain] using plain)
  | .array (item :: items), fuel, rest, plain, fueled, _ => by
      rw [isPlain] at plain
      rcases exists_renderItems (Bool.and_eq_true_iff.mp plain).1 items with ⟨head, tail, written, opens⟩
      simp only [render, List.length_cons, List.length_append, List.length_nil, List.cons_append,
        List.append_assoc, List.nil_append] at fueled ⊢
      obtain ⟨fuel, rfl⟩ : ∃ less, fuel = less + 1 := ⟨fuel - 1, by omega⟩
      have reads := readItems_renderItems (item :: items) fuel rest plain (List.cons_ne_nil item items)
        (by omega)
      rw [written, List.cons_append] at reads ⊢
      rw [readValue_bracket opens, reads, Option.map_some]
  | .object (member :: members), fuel, rest, plain, fueled, _ => by
      rw [isPlain] at plain
      rcases exists_renderMembers member members with ⟨tail, written⟩
      simp only [render, List.length_cons, List.length_append, List.length_nil, List.cons_append,
        List.append_assoc, List.nil_append] at fueled ⊢
      obtain ⟨fuel, rfl⟩ : ∃ less, fuel = less + 1 := ⟨fuel - 1, by omega⟩
      have reads := readMembers_renderMembers (member :: members) fuel rest plain
        (List.cons_ne_nil member members) (by omega)
      rw [written, List.cons_append] at reads ⊢
      rw [readValue_brace, reads]
      rfl
  | .decimal _, _, _, plain, _, _ | .unreadable, _, _, plain, _, _ => by cases plain

theorem readItems_renderItems : ∀ (items : List Json) (fuel : Nat) (rest : List Char),
    arePlain items = true → items ≠ [] → 2 * (renderItems items).length ≤ fuel →
      readItems (fuel + 1) (renderItems items ++ ']' :: rest) = some (items, rest)
  | [], _, _, _, nonempty, _ => absurd rfl nonempty
  | [item], fuel, rest, plain, _, fueled => by
      have plain : item.isPlain = true := by simpa [arePlain] using plain
      have long := length_render_pos plain
      rw [renderItems] at fueled ⊢
      obtain ⟨fuel, rfl⟩ : ∃ less, fuel = less + 1 := ⟨fuel - 1, by omega⟩
      exact readItems_last (readValue_render item fuel _ plain fueled (.bracket rest))
  | item :: next :: items, fuel, rest, plain, _, fueled => by
      rw [arePlain, Bool.and_eq_true] at plain
      have long := length_render_pos plain.1
      simp only [renderItems, List.length_append, List.length_cons, List.append_assoc, List.cons_append]
        at fueled ⊢
      obtain ⟨fuel, rfl⟩ : ∃ less, fuel = less + 1 := ⟨fuel - 1, by omega⟩
      refine readItems_cons (readValue_render item fuel _ plain.1 (by omega) (.comma _)) ?_
      exact readItems_renderItems (next :: items) fuel rest plain.2 (List.cons_ne_nil next items) (by omega)

theorem readMembers_renderMembers : ∀ (members : List (String × Json)) (fuel : Nat) (rest : List Char),
    havePlain members = true → members ≠ [] → 2 * (renderMembers members).length ≤ fuel →
      readMembers (fuel + 1) (renderMembers members ++ '\x7d' :: rest) = some (some members, rest)
  | [], _, _, _, nonempty, _ => absurd rfl nonempty
  | [(name, value)], fuel, rest, plain, _, fueled => by
      have plain : value.isPlain = true := by simpa [havePlain] using plain
      simp only [renderMembers, List.length_append, List.length_cons, List.append_assoc, List.cons_append]
        at fueled ⊢
      obtain ⟨fuel, rfl⟩ : ∃ less, fuel = less + 1 := ⟨fuel - 1, by omega⟩
      exact readMembers_last (readValue_render value fuel _ plain (by omega) (.brace rest))
        (Closes.brace rest).skipBlanks
  | (name, value) :: next :: members, fuel, rest, plain, _, fueled => by
      rw [havePlain, Bool.and_eq_true] at plain
      simp only [renderMembers, List.length_append, List.length_cons, List.append_assoc, List.cons_append]
        at fueled ⊢
      obtain ⟨fuel, rfl⟩ : ∃ less, fuel = less + 1 := ⟨fuel - 1, by omega⟩
      refine readMembers_cons (readValue_render value fuel _ plain.1 (by omega) (.comma _))
        (Closes.comma _).skipBlanks ?_
      exact readMembers_renderMembers (next :: members) fuel rest plain.2 (List.cons_ne_nil next members)
        (by omega)

end

/-- The text of a document is read back. -/
theorem parse_text {document : Json} (plain : document.isPlain = true) :
    parse document.text.toList = some document := by
  have reads := readValue_render document (2 * document.render.length + 1) [] plain (by omega) .nil
  rw [List.append_nil] at reads
  rw [text, String.toList_ofList, parse, reads]
  rfl

end Coordination.Json
