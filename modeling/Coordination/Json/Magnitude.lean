import Coordination.Json.Digits

/-!
# Magnitudes of numbers

Whether a number of a text has a finite binary number of 64 bits. The leading digits that fit in a
word of 64 bits make up the significand, and every digit after them counts as a zero. Significand and
power of ten are rounded to 53 bits each before they are multiplied, so that a number just below the
bound may still come out as infinite. `absorb_lt` says that a significand never outgrows a word,
`absorb_suffix` that the digits left over are the last ones.
-/

namespace Coordination.Json

def wordBound : Nat := Nat.pow 2 64

/-- Appends digits to a significand as long as it fits in a word, with the digits that are left. -/
def absorb (significand : Nat) : List Char → Nat × List Char
  | [] => (significand, [])
  | digit :: rest =>
      if 10 * significand + Digits.number digit < wordBound then
        absorb (10 * significand + Digits.number digit) rest
      else (significand, digit :: rest)

/-- The nearest number with 53 significant bits; a tie goes to the even neighbour. -/
def roundBits (value : Nat) : Nat :=
  let unit := Nat.pow 2 (value.log2 + 1 - 53)
  let quotient := value / unit
  let rest := value % unit
  if unit < 2 * rest || (unit = 2 * rest && quotient % 2 = 1) then (quotient + 1) * unit
  else quotient * unit

/-- The least magnitude that rounds to infinity. -/
def infinite : Nat := Nat.pow 2 1024 - Nat.pow 2 970

/-- The largest exponent of a power of ten that is finite. -/
def maximalScale : Int := 308

/-- Whether the number with some digits before and after the point and an exponent is infinite. -/
def isInfinite (whole fraction : List Char) (exponent : Int) : Bool :=
  let (leading, skipped) := absorb 0 whole
  let (significand, unused) := absorb leading fraction
  let scale := exponent + skipped.length + unused.length - fraction.length
  if significand = 0 || scale < 0 then false
  else if maximalScale < scale then true
  else infinite ≤ roundBits significand * roundBits (Nat.pow 10 scale.toNat)

/-- A significand that fits in a word goes on to do so. -/
theorem absorb_lt {significand : Nat} (fits : significand < wordBound) (digits : List Char) :
    (absorb significand digits).1 < wordBound := by
  induction digits generalizing significand with
  | nil => exact fits
  | cons digit rest ih =>
    rw [absorb]
    split
    · next room => exact ih room
    · exact fits

/-- The digits that are left are the last ones. -/
theorem absorb_suffix (significand : Nat) (digits : List Char) :
    (absorb significand digits).2 <:+ digits := by
  induction digits generalizing significand with
  | nil => exact List.suffix_rfl
  | cons digit rest ih =>
    rw [absorb]
    split
    · exact (ih _).trans (List.suffix_cons digit rest)
    · exact List.suffix_rfl

end Coordination.Json
