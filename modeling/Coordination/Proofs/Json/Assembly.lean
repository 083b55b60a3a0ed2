import Coordination.Proofs.Json.RoundTrip
import Mathlib.Data.List.DropRight

/-!
# Documents put together from the texts of their parts

What the reader takes from the front of a text is the same whatever stands behind it, as long as nothing
there belongs to it (`extends_of_closes`). So a value with a text of its own, whichever it is and with
whatever blanks around it, is read in the midst of a longer text, and an object can be put together from
names and the texts of any values (`parse_objectText`).
-/

namespace Coordination.Json

section Scanning

theorem skipBlanks_append {characters rest : List Char} {head : Char}
    (skipped : skipBlanks characters = head :: rest) (more : List Char) :
    skipBlanks (characters ++ more) = head :: (rest ++ more) := by
  rw [skipBlanks] at skipped
  rw [skipBlanks, List.dropWhile_append, skipped]
  rfl

theorem readUnits_append {characters rest : List Char} {units : List Unit16}
    (reads : readUnits characters = some (units, rest)) (more : List Char) :
    readUnits (characters ++ more) = some (units, rest ++ more) := by
  fun_induction readUnits characters generalizing units rest with
  | case1 => cases reads
  | case2 =>
      cases reads
      rfl
  | case3 first second third fourth tail ih =>
      simp only [Option.bind_eq_bind, Option.bind_eq_some_iff, Option.pure_def, Option.some.injEq] at reads
      rcases reads with ⟨unit, code, ⟨later, left⟩, tail, same⟩
      cases same
      simp [readUnits, code, ih tail]
  | case4 escaped tail unlike ih =>
      simp only [Option.bind_eq_bind, Option.bind_eq_some_iff, Option.pure_def, Option.some.injEq] at reads
      rcases reads with ⟨character, short, ⟨later, left⟩, tail, same⟩
      cases same
      rw [List.cons_append, List.cons_append, readUnits_short short, ih tail]
      rfl
  | case5 => cases reads
  | case6 character tail quote escape backslash printable ih =>
      simp only [Option.bind_eq_bind, Option.bind_eq_some_iff, Option.pure_def, Option.some.injEq] at reads
      rcases reads with ⟨⟨later, left⟩, reads, same⟩
      cases same
      have plain : character ≠ '\\' := by
        rintro rfl
        cases tail with
        | nil => cases reads
        | cons next tail => exact backslash next tail rfl rfl
      rw [List.cons_append, readUnits, if_neg printable, ih reads]
      · rfl
      all_goals grind

theorem readText_append {characters rest : List Char} {text : Option String}
    (reads : readText characters = some (text, rest)) (more : List Char) :
    readText (characters ++ more) = some (text, rest ++ more) := by
  simp only [readText, Option.bind_eq_bind, Option.bind_eq_some_iff, Option.pure_def,
    Option.some.injEq] at reads
  rcases reads with ⟨⟨units, left⟩, reads, same⟩
  cases same
  simp [readText, readUnits_append reads more]

end Scanning

section Numbers

variable {more characters rest : List Char}

theorem Closes.span_append (closes : Closes more) (characters : List Char) :
    (characters ++ more).span Char.isDigit
      = ((characters.span Char.isDigit).1, (characters.span Char.isDigit).2 ++ more) := by
  have stops : more.span Char.isDigit = ([], more) := by cases closes <;> rfl
  simp only [List.span_eq_takeWhile_dropWhile] at stops ⊢
  induction characters with
  | nil => exact stops
  | cons head tail ih =>
      by_cases digit : head.isDigit = true
      · simpa [List.takeWhile_cons_of_pos digit, List.dropWhile_cons_of_pos digit] using ih
      · simp [digit]

theorem readWhole_append (closes : Closes more) {digits : List Char}
    (reads : readWhole characters = some (digits, rest)) :
    readWhole (characters ++ more) = some (digits, rest ++ more) := by
  unfold readWhole at reads
  split at reads
  · cases reads
    rfl
  · rename_i nonzero
    rw [readWhole, closes.span_append]
    · simp only [Option.ite_none_left_eq_some, Option.some.injEq, Prod.mk.injEq] at reads ⊢
      exact ⟨reads.1, reads.2.1, congrArg (· ++ more) reads.2.2⟩
    · intro tail same
      cases characters with
      | nil => cases reads
      | cons head others => exact nonzero others (congrArg (· :: others) (List.cons.inj same).1)

theorem readFraction_append (closes : Closes more) {digits : List Char}
    (reads : readFraction characters = some (digits, rest)) :
    readFraction (characters ++ more) = some (digits, rest ++ more) := by
  unfold readFraction at reads
  split at reads
  · rename_i tail
    rw [List.cons_append, readFraction, closes.span_append]
    simp only [Option.ite_none_left_eq_some, Option.some.injEq, Prod.mk.injEq] at reads ⊢
    exact ⟨reads.1, reads.2.1, congrArg (· ++ more) reads.2.2⟩
  · rename_i unpointed
    cases reads
    cases characters with
    | nil => exact closes.readFraction
    | cons head tail =>
        rw [List.cons_append, readFraction]
        intro others same
        exact unpointed tail (congrArg (· :: tail) (List.cons.inj same).1)

/-- The size of an exponent behind its sign. -/
def readSize (negative : Bool) (unsigned : List Char) : Option (Int × List Char) :=
  let (digits, rest) := unsigned.span Char.isDigit
  if digits.isEmpty then none
  else
    let size : Int := Digits.value digits
    some (if negative then -size else size, rest)

theorem readSize_append (closes : Closes more) {negative : Bool} {exponent : Int}
    (reads : readSize negative characters = some (exponent, rest)) :
    readSize negative (characters ++ more) = some (exponent, rest ++ more) := by
  rw [readSize, closes.span_append]
  simp only [readSize, Option.ite_none_left_eq_some, Option.some.injEq, Prod.mk.injEq] at reads ⊢
  exact ⟨reads.1, reads.2.1, congrArg (· ++ more) reads.2.2⟩

theorem readSigned_cons (head : Char) (tail : List Char) :
    readSigned (head :: tail)
      = if head = '-' then readSize true tail
        else if head = '+' then readSize false tail
        else readSize false (head :: tail) := by
  by_cases minus : head = '-'
  · subst minus
    rfl
  · by_cases plus : head = '+'
    · subst plus
      rfl
    · rw [if_neg minus, if_neg plus]
      simp only [readSigned]
      split
      · simp_all
      · simp_all
      · rfl

theorem readSigned_append (closes : Closes more) {exponent : Int}
    (reads : readSigned characters = some (exponent, rest)) :
    readSigned (characters ++ more) = some (exponent, rest ++ more) := by
  cases characters with
  | nil => cases reads
  | cons head tail =>
      rw [readSigned_cons] at reads
      rw [List.cons_append, readSigned_cons]
      split_ifs at reads ⊢ <;> exact readSize_append closes reads

theorem readExponent_append (closes : Closes more) {exponent : Option Int}
    (reads : readExponent characters = some (exponent, rest)) :
    readExponent (characters ++ more) = some (exponent, rest ++ more) := by
  unfold readExponent at reads
  split at reads
  · simp only [Option.map_eq_some_iff] at reads
    rcases reads with ⟨⟨size, left⟩, reads, same⟩
    cases same
    simp [readExponent, readSigned_append closes reads]
  · simp only [Option.map_eq_some_iff] at reads
    rcases reads with ⟨⟨size, left⟩, reads, same⟩
    cases same
    simp [readExponent, readSigned_append closes reads]
  · rename_i small large
    cases reads
    cases characters with
    | nil => exact closes.readExponent
    | cons head tail =>
        rw [List.cons_append, readExponent]
        · intro others same
          exact small tail (congrArg (· :: tail) (List.cons.inj same).1)
        · intro others same
          exact large tail (congrArg (· :: tail) (List.cons.inj same).1)

theorem number_append (negative : Bool) (whole fraction : List Char) (exponent : Option Int)
    (characters rest more : List Char) :
    number negative whole fraction exponent (characters ++ more) (rest ++ more)
      = number negative whole fraction exponent characters rest := by
  have same : literal (characters ++ more) (rest ++ more) = literal characters rest := by
    have length : (characters ++ more).length - (rest ++ more).length
        = characters.length - rest.length := by
      simp only [List.length_append]
      omega
    rw [literal, literal, length, List.take_append_of_le_length (Nat.sub_le _ _)]
  simp only [number, same]

/-- A number behind its sign, with the text of the whole number. -/
def readMagnitude (negative : Bool) (unsigned characters : List Char) :
    Option (Json × List Char) := do
  let (whole, rest) ← readWhole unsigned
  let (fraction, rest) ← readFraction rest
  let (exponent, rest) ← readExponent rest
  return (number negative whole fraction exponent characters rest, rest)

theorem readMagnitude_append (closes : Closes more) {negative : Bool} {unsigned : List Char}
    {document : Json} (reads : readMagnitude negative unsigned characters = some (document, rest)) :
    readMagnitude negative (unsigned ++ more) (characters ++ more)
      = some (document, rest ++ more) := by
  simp only [readMagnitude, Option.bind_eq_bind, Option.bind_eq_some_iff, Option.pure_def,
    Option.some.injEq, Prod.mk.injEq] at reads
  rcases reads with ⟨⟨whole, first⟩, wholes, ⟨fraction, second⟩, fractions, ⟨exponent, third⟩,
    exponents, rfl, rfl⟩
  simp [readMagnitude, readWhole_append closes wholes, readFraction_append closes fractions,
    readExponent_append closes exponents, number_append]

theorem readNumber_cons (head : Char) (tail : List Char) :
    readNumber (head :: tail)
      = if head = '-' then readMagnitude true tail (head :: tail)
        else readMagnitude false (head :: tail) (head :: tail) := by
  by_cases minus : head = '-'
  · subst minus
    rw [if_pos rfl, readNumber, readMagnitude]
  · rw [if_neg minus, readNumber, readMagnitude]
    exact fun _ same => minus (List.cons.inj same).1

theorem readNumber_nil : readNumber [] = none := by
  simp [readNumber, readWhole]

theorem readNumber_append (closes : Closes more) {document : Json}
    (reads : readNumber characters = some (document, rest)) :
    readNumber (characters ++ more) = some (document, rest ++ more) := by
  cases characters with
  | nil =>
      rw [readNumber_nil] at reads
      cases reads
  | cons head tail =>
      rw [readNumber_cons] at reads
      rw [List.cons_append, readNumber_cons]
      by_cases minus : head = '-'
      · rw [if_pos minus] at reads ⊢
        have extended := readMagnitude_append closes reads
        exact extended
      · rw [if_neg minus] at reads ⊢
        have extended := readMagnitude_append closes reads
        exact extended

/-- A number begins with a digit or a minus. -/
theorem starts_of_readNumber {document : Json}
    (reads : readNumber characters = some (document, rest)) :
    ∃ head tail, characters = head :: tail ∧ (head.isDigit = true ∨ head = '-') := by
  cases characters with
  | nil =>
      rw [readNumber_nil] at reads
      cases reads
  | cons head tail =>
      refine ⟨head, tail, rfl, ?_⟩
      by_contra other
      rw [not_or] at other
      rw [readNumber_cons, if_neg other.2] at reads
      have none : readWhole (head :: tail) = none := by
        have zero : head ≠ '0' := by
          rintro rfl
          exact other.1 rfl
        rw [readWhole]
        · simp [List.span_eq_takeWhile_dropWhile, other.1]
        · exact fun _ same => zero (List.cons.inj same).1
      simp [readMagnitude, none] at reads

end Numbers

section Values

variable {more characters rest : List Char}

/-- Whatever is read with some fuel is read in front of more text, and with more fuel. -/
structure Extends (more : List Char) (fuel : Nat) : Prop where
  value : ∀ {larger characters document rest}, fuel ≤ larger →
    readValue fuel characters = some (document, rest) →
      readValue larger (characters ++ more) = some (document, rest ++ more)
  items : ∀ {larger characters items rest}, fuel ≤ larger →
    readItems fuel characters = some (items, rest) →
      readItems larger (characters ++ more) = some (items, rest ++ more)
  members : ∀ {larger characters members rest}, fuel ≤ larger →
    readMembers fuel characters = some (members, rest) →
      readMembers larger (characters ++ more) = some (members, rest ++ more)

theorem exists_skipBlanks_of_readValue {fuel : Nat} {document : Json}
    (reads : readValue fuel characters = some (document, rest)) :
    ∃ head tail, skipBlanks characters = head :: tail := by
  refine List.exists_cons_of_ne_nil fun blank => ?_
  cases fuel with
  | zero =>
      rw [readValue] at reads
      cases reads
  | succ fuel =>
      rw [readValue, blank] at reads
      simp only [readNumber_nil] at reads
      cases reads

theorem exists_skipBlanks_of_readItems {fuel : Nat} {items : List Json}
    (reads : readItems fuel characters = some (items, rest)) :
    ∃ head tail, skipBlanks characters = head :: tail := by
  cases fuel with
  | zero =>
      rw [readItems] at reads
      cases reads
  | succ fuel =>
      simp only [readItems, Option.bind_eq_bind, Option.bind_eq_some_iff] at reads
      rcases reads with ⟨⟨item, left⟩, first, _⟩
      exact exists_skipBlanks_of_readValue first

theorem exists_skipBlanks_of_readMembers {fuel : Nat} {members : Option (List (String × Json))}
    (reads : readMembers fuel characters = some (members, rest)) :
    ∃ tail, skipBlanks characters = '"' :: tail := by
  cases fuel with
  | zero =>
      rw [readMembers] at reads
      cases reads
  | succ fuel =>
      rw [readMembers] at reads
      split at reads
      · exact ⟨_, ‹_›⟩
      · cases reads

theorem skipBlanks_append_of_eq_nil {blanks : List Char} (none : skipBlanks blanks = [])
    (closes : Closes more) : skipBlanks (blanks ++ more) = more := by
  rw [skipBlanks] at none
  rw [skipBlanks, List.dropWhile_append, none]
  exact closes.skipBlanks

theorem readValue_skipBlanks (fuel : Nat) (characters : List Char) :
    readValue (fuel + 1) (skipBlanks characters) = readValue (fuel + 1) characters := by
  have again : skipBlanks (skipBlanks characters) = skipBlanks characters :=
    List.dropWhile_idempotent isBlank characters
  rw [readValue, readValue, again]

namespace Extends

variable {fuel larger : Nat}

theorem readValue (closes : Closes more) (ih : Extends more fuel) (enough : fuel ≤ larger)
    {document : Json} (reads : Json.readValue (fuel + 1) characters = some (document, rest)) :
    Json.readValue (larger + 1) (characters ++ more) = some (document, rest ++ more) := by
  rw [Json.readValue] at reads
  split at reads
  iterate 3
    · rename_i skipped
      cases reads
      rw [Json.readValue, skipBlanks_append skipped]
      rfl
  · rename_i skipped
    simp only [Option.map_eq_some_iff, Prod.exists, Prod.mk.injEq] at reads
    rcases reads with ⟨text, left, reads, rfl, rfl⟩
    rw [Json.readValue, skipBlanks_append skipped]
    simp only [readText_append reads, Option.map_some]
  · rename_i tail skipped
    rw [Json.readValue, skipBlanks_append skipped]
    simp only
    split at reads
    · rename_i closed
      cases reads
      rw [skipBlanks_append closed]
      rfl
    · rename_i unclosed
      simp only [Option.map_eq_some_iff, Prod.exists, Prod.mk.injEq] at reads
      rcases reads with ⟨items, left, reads, rfl, rfl⟩
      rcases exists_skipBlanks_of_readItems reads with ⟨head, others, opened⟩
      rw [skipBlanks_append opened, ih.items enough reads]
      split
      · rename_i same
        exact (unclosed others (opened.trans (congrArg (· :: others) (List.cons.inj same).1))).elim
      · rfl
  · rename_i tail skipped
    rw [Json.readValue, skipBlanks_append skipped]
    simp only
    split at reads
    · rename_i closed
      cases reads
      rw [skipBlanks_append closed]
      rfl
    · simp only [Option.map_eq_some_iff, Prod.exists, Prod.mk.injEq] at reads
      rcases reads with ⟨members, left, reads, rfl, rfl⟩
      rcases exists_skipBlanks_of_readMembers reads with ⟨others, opened⟩
      rw [skipBlanks_append opened, ih.members enough reads]
      rfl
  · rcases starts_of_readNumber reads with ⟨head, tail, skipped, starts⟩
    rw [skipped] at reads
    have extended := readNumber_append closes reads
    rw [← readValue_skipBlanks, skipBlanks_append skipped, readValue_number starts]
    exact extended

theorem readItems (ih : Extends more fuel) (enough : fuel ≤ larger) {items : List Json}
    (reads : Json.readItems (fuel + 1) characters = some (items, rest)) :
    Json.readItems (larger + 1) (characters ++ more) = some (items, rest ++ more) := by
  simp only [Json.readItems, Option.bind_eq_bind, Option.bind_eq_some_iff, Prod.exists] at reads
  rcases reads with ⟨item, left, first, reads⟩
  simp only [Json.readItems, ih.value enough first, Option.bind_eq_bind, Option.bind_some]
  split at reads
  · rename_i skipped
    cases reads
    rw [skipBlanks_append skipped]
    rfl
  · rename_i skipped
    simp only [Option.map_eq_some_iff, Prod.exists, Prod.mk.injEq] at reads
    rcases reads with ⟨items, left, reads, rfl, rfl⟩
    rw [skipBlanks_append skipped]
    simp only [ih.items enough reads, Option.map_some]
  · cases reads

theorem readMembers (ih : Extends more fuel) (enough : fuel ≤ larger)
    {members : Option (List (String × Json))}
    (reads : Json.readMembers (fuel + 1) characters = some (members, rest)) :
    Json.readMembers (larger + 1) (characters ++ more) = some (members, rest ++ more) := by
  rw [Json.readMembers] at reads ⊢
  split at reads
  · rename_i quoted
    rw [skipBlanks_append quoted]
    simp only [Option.bind_eq_bind, Option.bind_eq_some_iff, Prod.exists] at reads ⊢
    rcases reads with ⟨name, left, named, reads⟩
    refine ⟨name, left ++ more, readText_append named more, ?_⟩
    split at reads
    · rename_i colon
      rw [skipBlanks_append colon]
      simp only [Option.bind_eq_some_iff, Prod.exists] at reads ⊢
      rcases reads with ⟨value, left, first, reads⟩
      refine ⟨value, left ++ more, ih.value enough first, ?_⟩
      split at reads
      · rename_i skipped
        cases reads
        rw [skipBlanks_append skipped]
        rfl
      · rename_i skipped
        simp only [Option.map_eq_some_iff, Prod.exists, Prod.mk.injEq] at reads
        rcases reads with ⟨others, left, reads, rfl, rfl⟩
        rw [skipBlanks_append skipped]
        simp only [ih.members enough reads, Option.map_some]
      · cases reads
    · cases reads
  · cases reads

end Extends

/-- What is read does not depend on what stands behind it, as long as nothing there belongs to it. -/
theorem extends_of_closes (closes : Closes more) (fuel : Nat) : Extends more fuel := by
  induction fuel with
  | zero =>
      refine ⟨?_, ?_, ?_⟩ <;> intro larger characters result rest _ reads
      · rw [readValue] at reads
        cases reads
      · rw [readItems] at reads
        cases reads
      · rw [readMembers] at reads
        cases reads
  | succ fuel ih =>
      refine ⟨?_, ?_, ?_⟩ <;> intro larger characters result rest enough reads
      all_goals
        obtain ⟨larger, rfl⟩ : ∃ less, larger = less + 1 := ⟨larger - 1, by omega⟩
        have enough : fuel ≤ larger := by omega
      · exact ih.readValue closes enough reads
      · exact ih.readItems enough reads
      · exact ih.readMembers enough reads

/-- A value with a text of its own is read in front of whatever may stand behind a value. -/
theorem readValue_of_parse {document : Json} (holds : parse characters = some document)
    (closes : Closes more) {fuel : Nat} (enough : 2 * characters.length + 2 ≤ fuel) :
    ∃ blanks, skipBlanks blanks = [] ∧
      readValue fuel (characters ++ more) = some (document, blanks ++ more) := by
  simp only [parse, Option.bind_eq_bind, Option.bind_eq_some_iff, Prod.exists,
    Option.ite_none_right_eq_some, List.isEmpty_iff] at holds
  rcases holds with ⟨document, blanks, reads, none, same⟩
  cases same
  exact ⟨blanks, none, (extends_of_closes closes _).value enough reads⟩

end Values

section Objects

/-- The texts of the members of an object, each with the text of its value. -/
def memberTexts : List (String × String) → List Char
  | [] => []
  | [(name, value)] => quote name.toList ++ ':' :: value.toList
  | (name, value) :: next :: rest =>
      quote name.toList ++ ':' :: value.toList ++ ',' :: memberTexts (next :: rest)

/-- A name and a text of a value spell a member. -/
def Spells (text : String × String) (member : String × Json) : Prop :=
  text.1 = member.1 ∧ parse text.2.toList = some member.2

/-- The text of an object, put together from names and the texts of their values. -/
def objectText (members : List (String × String)) : String :=
  String.ofList ('\x7b' :: memberTexts members ++ ['\x7d'])

theorem exists_memberTexts (text : String × String) (texts : List (String × String)) :
    ∃ tail, memberTexts (text :: texts) = '"' :: tail := by
  cases texts <;> exact ⟨_, rfl⟩

/-- The members of an object, each with the text of its name and of its value, are read one after the
other. -/
theorem readMembers_memberTexts {texts : List (String × String)} {members : List (String × Json)}
    (hold : List.Forall₂ Spells texts members) (nonempty : texts ≠ []) {fuel : Nat}
    (enough : 2 * (memberTexts texts).length ≤ fuel) (rest : List Char) :
    readMembers (fuel + 1) (memberTexts texts ++ '\x7d' :: rest) = some (some members, rest) := by
  induction hold generalizing fuel with
  | nil => exact absurd rfl nonempty
  | @cons text member texts members first others ih =>
      rcases text with ⟨name, value⟩
      rcases member with ⟨_, document⟩
      rcases first with ⟨rfl, holds⟩
      cases others with
      | nil =>
          have long : 2 * value.toList.length + 2 ≤ fuel := by
            simp only [memberTexts, quote, List.length_append, List.length_cons] at enough
            omega
          rcases readValue_of_parse holds (.brace rest) long with ⟨blanks, none, reads⟩
          simp only [memberTexts, List.append_assoc, List.cons_append]
          exact readMembers_last reads (skipBlanks_append_of_eq_nil none (.brace rest))
      | @cons next _ texts _ second others =>
          simp only [memberTexts, List.append_assoc, List.cons_append]
          simp only [memberTexts, quote, List.length_append, List.length_cons] at enough
          obtain ⟨fuel, rfl⟩ : ∃ less, fuel = less + 1 := ⟨fuel - 1, by omega⟩
          rcases readValue_of_parse holds (.comma (memberTexts (next :: texts) ++ '\x7d' :: rest))
            (show 2 * value.toList.length + 2 ≤ fuel + 1 by omega) with ⟨blanks, none, reads⟩
          refine readMembers_cons reads (skipBlanks_append_of_eq_nil none (.comma _)) ?_
          exact ih (List.cons_ne_nil _ _) (by omega)

/-- An object is put together from names and the texts of any values, with whatever blanks around them. -/
theorem parse_objectText {texts : List (String × String)} {members : List (String × Json)}
    (hold : List.Forall₂ Spells texts members) :
    parse (objectText texts).toList = some (.object members) := by
  rw [objectText, String.toList_ofList]
  cases hold with
  | nil => rfl
  | @cons text member texts members first others =>
      rcases exists_memberTexts text texts with ⟨tail, written⟩
      have reads := readMembers_memberTexts (.cons first others) (List.cons_ne_nil text texts)
        (Nat.le_add_right (2 * (memberTexts (text :: texts)).length) 4) []
      have long : 2 * ('\x7b' :: memberTexts (text :: texts) ++ ['\x7d']).length + 2
          = 2 * (memberTexts (text :: texts)).length + 6 := by
        simp only [List.length_append, List.length_cons, List.length_nil]
        omega
      rw [parse, long]
      rw [written] at reads ⊢
      simp only [List.cons_append] at reads ⊢
      rw [readValue_brace, reads]
      rfl

end Objects

end Coordination.Json
