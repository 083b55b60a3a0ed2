import Coordination.Json.Parser
import Coordination.Json.Printer
import Mathlib.Data.List.TakeDrop

/-!
# Texts and numbers that are read back

A text in quotes is read back as it was, whatever its characters are: each of them is written as one unit,
be it itself, a short escape or a code below 32, which is never half of a surrogate pair
(`readText_quote`). An integer is read back if its digits fit in a word, as long as nothing behind it could
belong to a number too (`readNumber_renderInteger`).
-/

namespace Coordination.Json

section Texts

/-- A unit stands for a character, be it the character itself or a code of a control character. -/
def Unit16.Denotes (unit : Unit16) (character : Char) : Prop :=
  unit = .char character ∨ unit = .code character.toNat ∧ character.toNat < 32

theorem hexNumber?_hexDigit {number : Nat} (small : number < 16) :
    hexNumber? (hexDigit number) = some number := by
  have all : ∀ small : Fin 16, hexNumber? (hexDigit small.val) = some small.val := by decide
  exact all ⟨number, small⟩

/-- The code of a control character is read back from its four digits. -/
theorem code?_escape {number : Nat} (small : number < 32) :
    code? '0' '0' (hexDigit (number / 16)) (hexDigit (number % 16)) = some number := by
  have zero : hexNumber? '0' = some 0 := by decide
  rw [code?, zero, hexNumber?_hexDigit (by omega), hexNumber?_hexDigit (by omega)]
  simp only [Option.bind_eq_bind, Option.bind_some, Option.pure_def, Option.some.injEq]
  omega

/-- The characters that have a short escape, with its letter. -/
def shortEscapes : List (Char × Char) :=
  [('"', '"'), ('\\', '\\'), ('\n', 'n'), ('\r', 'r'), ('\t', 't'), (Char.ofNat 8, 'b'),
    (Char.ofNat 12, 'f')]

theorem shortEscape?_of_mem : ∀ pair ∈ shortEscapes,
    shortEscape? pair.2 = some pair.1 ∧ escape pair.1 = ['\\', pair.2] := by decide

theorem escape_of_not_mem {character : Char} (other : ∀ letter, (character, letter) ∉ shortEscapes) :
    escape character = if character.toNat < 32 then
      ['\\', 'u', '0', '0', hexDigit (character.toNat / 16), hexDigit (character.toNat % 16)]
    else [character] := by
  have apart {short : Char} (listed : short ∈ shortEscapes.map Prod.fst) : character ≠ short := by
    rintro rfl
    rcases List.mem_map.mp listed with ⟨⟨_, letter⟩, mem, rfl⟩
    exact other letter mem
  have unnumbered {number : Nat} (listed : Char.ofNat number ∈ shortEscapes.map Prod.fst) :
      character.toNat ≠ number := by
    rintro rfl
    exact apart listed (Char.ofNat_toNat character).symm
  rw [escape, if_neg (apart (by decide)), if_neg (apart (by decide)), if_neg (apart (by decide)),
    if_neg (apart (by decide)), if_neg (apart (by decide)), if_neg (unnumbered (by decide)),
    if_neg (unnumbered (by decide))]

theorem readUnits_short {letter character : Char} (short : shortEscape? letter = some character)
    (more : List Char) :
    readUnits ('\\' :: letter :: more)
      = (readUnits more).map fun (units, rest) => (.char character :: units, rest) := by
  have other : letter ≠ 'u' := by
    rintro rfl
    cases short
  rw [readUnits, short]
  · cases readUnits more <;> rfl
  · exact fun _ _ _ _ _ same => absurd same other

/-- A character is written as one unit that stands for it. -/
theorem readUnits_escape (character : Char) :
    ∃ unit : Unit16, unit.Denotes character ∧ ∀ more,
      readUnits (escape character ++ more)
        = (readUnits more).map fun (units, rest) => (unit :: units, rest) := by
  by_cases short : ∃ letter, (character, letter) ∈ shortEscapes
  · rcases short with ⟨letter, mem⟩
    rcases shortEscape?_of_mem _ mem with ⟨reads, written⟩
    refine ⟨.char character, Or.inl rfl, fun more => ?_⟩
    rw [written]
    exact readUnits_short reads more
  · rw [escape_of_not_mem (not_exists.mp short)]
    by_cases control : character.toNat < 32
    · refine ⟨.code character.toNat, Or.inr ⟨rfl, control⟩, fun more => ?_⟩
      simp only [if_pos control, List.cons_append, List.nil_append]
      rw [readUnits, code?_escape control]
      cases readUnits more <;> rfl
    · refine ⟨.char character, Or.inl rfl, fun more => ?_⟩
      have quote : character ≠ '"' := by
        rintro rfl
        exact short ⟨'"', by decide⟩
      have backslash : character ≠ '\\' := by
        rintro rfl
        exact short ⟨'\\', by decide⟩
      simp only [if_neg control, List.cons_append, List.nil_append]
      rw [readUnits, if_neg control]
      · cases readUnits more <;> rfl
      all_goals grind

/-- A unit that stands for a character is no half of a surrogate pair. -/
theorem Unit16.Denotes.joinUnits {unit : Unit16} {character : Char} (denotes : unit.Denotes character)
    (units : List Unit16) :
    Json.joinUnits (unit :: units) = (character :: ·) <$> Json.joinUnits units := by
  rcases denotes with rfl | ⟨rfl, control⟩
  · rfl
  · have leads : isLeading character.toNat = false := by simp [isLeading]; omega
    have trails : isTrailing character.toNat = false := by simp [isTrailing]; omega
    cases units with
    | nil => simp [Json.joinUnits, leads, trails, Char.ofNat_toNat]
    | cons next units =>
        cases next <;> simp [Json.joinUnits, leads, trails, Char.ofNat_toNat]

theorem readUnits_flatMap_escape (characters rest : List Char) :
    ∃ units, readUnits (characters.flatMap escape ++ '"' :: rest) = some (units, rest) ∧
      joinUnits units = some characters := by
  induction characters with
  | nil => exact ⟨[], rfl, rfl⟩
  | cons character characters ih =>
      rcases ih with ⟨units, reads, joins⟩
      rcases readUnits_escape character with ⟨unit, denotes, written⟩
      refine ⟨unit :: units, ?_, ?_⟩
      · rw [List.flatMap_cons, List.append_assoc, written, reads]
        rfl
      · rw [denotes.joinUnits, joins]
        rfl

/-- A text in quotes is read back. -/
theorem readText_quote (text : String) (rest : List Char) :
    readText (text.toList.flatMap escape ++ '"' :: rest) = some (some text, rest) := by
  rcases readUnits_flatMap_escape text.toList rest with ⟨units, reads, joins⟩
  simp [readText, reads, joins]

end Texts

section Numbers

/-- What may stand behind a value: nothing, or what comes next in an array or an object. -/
inductive Closes : List Char → Prop where
  | nil : Closes []
  | comma (rest : List Char) : Closes (',' :: rest)
  | bracket (rest : List Char) : Closes (']' :: rest)
  | brace (rest : List Char) : Closes ('\x7d' :: rest)

variable {rest : List Char}

theorem Closes.readFraction (closes : Closes rest) : Json.readFraction rest = some ([], rest) := by
  cases closes <;> rfl

theorem Closes.readExponent (closes : Closes rest) : Json.readExponent rest = some (none, rest) := by
  cases closes <;> rfl

theorem Closes.span_digits (closes : Closes rest) {digits : List Char}
    (all : ∀ digit ∈ digits, digit.isDigit = true) :
    (digits ++ rest).span Char.isDigit = (digits, rest) := by
  have stops : rest.span Char.isDigit = ([], rest) := by cases closes <;> rfl
  rw [List.span_eq_takeWhile_dropWhile] at stops ⊢
  rw [List.takeWhile_append_of_pos all, List.dropWhile_append_of_pos all, (Prod.mk.inj stops).1,
    (Prod.mk.inj stops).2, List.append_nil]

/-- A number begins with a digit, and only zero begins with a zero. -/
theorem exists_digits (count : Nat) :
    ∃ head tail, Digits.digits count = head :: tail ∧ head.isDigit = true ∧
      (head = '0' → count = 0) := by
  induction count using Nat.strongRecOn with
  | _ count ih =>
      rw [Digits.digits]
      split
      · next small =>
        refine ⟨Digits.digit count, [], rfl, Digits.isDigit_digit small, fun zero => ?_⟩
        rw [← Digits.number_digit small, zero]
        rfl
      · next large =>
        rcases ih (count / 10) (by omega) with ⟨head, tail, written, digit, zero⟩
        refine ⟨head, tail ++ [Digits.digit (count % 10)], ?_, digit, fun same => ?_⟩
        · rw [written, List.cons_append]
        · have := zero same
          omega

theorem readWhole_digits (closes : Closes rest) (count : Nat) :
    readWhole (Digits.digits count ++ rest) = some (Digits.digits count, rest) := by
  rcases exists_digits count with ⟨head, tail, written, _, zero⟩
  have spans := closes.span_digits (Digits.isDigit_of_mem_digits count)
  by_cases leading : head = '0'
  · rw [zero leading, Digits.digits]
    rfl
  · rw [written] at spans ⊢
    rw [List.cons_append, readWhole]
    · rw [List.cons_append] at spans
      rw [spans]
      rfl
    · exact fun _ same => leading (List.cons.inj same).1

/-- The number of some digits behind a significand. -/
def extended (significand : Nat) (digits : List Char) : Nat :=
  digits.foldl (fun sum digit => 10 * sum + Digits.number digit) significand

theorem le_extended (significand : Nat) (digits : List Char) :
    significand ≤ extended significand digits := by
  induction digits generalizing significand with
  | nil => exact Nat.le_refl _
  | cons digit digits ih => exact Nat.le_trans (by omega) (ih (10 * significand + Digits.number digit))

/-- Digits are absorbed as long as the whole number fits in a word. -/
theorem absorb_eq_extended {significand : Nat} {digits : List Char}
    (fits : extended significand digits < wordBound) :
    absorb significand digits = (extended significand digits, []) := by
  induction digits generalizing significand with
  | nil => rfl
  | cons digit digits ih =>
      rw [absorb, if_pos (Nat.lt_of_le_of_lt (le_extended _ digits) fits)]
      exact ih fits

theorem roundBits_le {value : Nat} (positive : 0 < value) : roundBits value ≤ 2 * value := by
  have unit : Nat.pow 2 (value.log2 + 1 - 53) ≤ value :=
    Nat.le_trans (Nat.pow_le_pow_right (by omega) (by omega)) (Nat.log2_self_le (by omega))
  have whole := Nat.div_mul_le_self value (Nat.pow 2 (value.log2 + 1 - 53))
  simp only [roundBits]
  split
  · rw [Nat.add_mul]
    omega
  · omega

/-- A number that fits in a word is far from infinite. -/
theorem isInfinite_digits {count : Nat} (fits : count < wordBound) :
    isInfinite (Digits.digits count) [] 0 = false := by
  have absorbed : absorb 0 (Digits.digits count) = (count, []) := by
    have same : extended 0 (Digits.digits count) = count := Digits.value_digits count
    rw [absorb_eq_extended (by rw [same]; exact fits), same]
  have one : roundBits (Nat.pow 10 0) = 1 := by decide
  have far : 2 * wordBound ≤ infinite := by decide +kernel
  rw [isInfinite, absorbed]
  change (if (decide (count = 0) || decide ((0 : Int) < 0)) = true then false
    else if maximalScale < 0 then true
    else decide (infinite ≤ roundBits count * roundBits (Nat.pow 10 0))) = false
  by_cases zero : count = 0
  · rw [if_pos (by simp [zero])]
  · have near := roundBits_le (Nat.pos_of_ne_zero zero)
    rw [if_neg (by simp [zero]), if_neg (by decide), one, Nat.mul_one]
    exact decide_eq_false (by omega)

/-- An integer that fits in a word is read back. -/
theorem readNumber_renderInteger (closes : Closes rest) {value : Int}
    (fits : value.natAbs < wordBound) :
    readNumber (renderInteger value ++ rest) = some (.integer value, rest) := by
  cases value with
  | ofNat count =>
      have finite : isInfinite (Digits.digits count) [] 0 = false := isInfinite_digits fits
      have whole := readWhole_digits closes count
      have unsigned (more : List Char) : Digits.digits count ++ rest ≠ '-' :: more := by
        rcases exists_digits count with ⟨head, tail, written, digit, _⟩
        rw [written, List.cons_append]
        intro same
        rw [(List.cons.inj same).1] at digit
        cases digit
      rw [renderInteger, readNumber]
      · simp only [whole, closes.readFraction, closes.readExponent, Option.bind_eq_bind,
          Option.bind_some, number, Option.getD_none, finite]
        simp [Digits.value_digits]
      · exact unsigned
  | negSucc count =>
      have finite : isInfinite (Digits.digits (count + 1)) [] 0 = false := isInfinite_digits fits
      have whole := readWhole_digits closes (count + 1)
      simp only [renderInteger, readNumber, List.cons_append, whole, closes.readFraction,
        closes.readExponent, Option.bind_eq_bind, Option.bind_some, number, Option.getD_none, finite]
      simp [Digits.value_digits, Int.negSucc_eq]

end Numbers

end Coordination.Json
